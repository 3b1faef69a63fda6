import CloudDiagram.Proofs.Hcl.Lexer

/-!
# Reading one literal

A reader of a template literal from left to right, which looks two characters ahead.

* `Hcl.readTemplate`, `Hcl.readLiteral`: the value of a literal, and what follows it;
* `readTemplate_sign`: a sign is read as it is where neither a brace nor a doubling follows;
* `hclChars_not_template`: what is written for a string never opens a template;
* **`readLiteral_hclString`**: a string literal is read as its string, whatever the string and whatever
  follows, and distinct strings have distinct literals.
-/

namespace CloudDiagram.Hcl

/-! ## The reader -/

/-- What was read, with some characters in front of the value. -/
def preceded (read : List Char) (r : Except Fault (List Char × List Char)) :
    Except Fault (List Char × List Char) :=
  r.map fun (value, left) => (read ++ value, left)

/-- **A literal from behind its opening quote**: its value, and what follows the closing quote. A
doubled sign before a brace stands for one, and a single sign before a brace opens a template. -/
def readTemplate : List Char → Except Fault (List Char × List Char)
  | [] => .error .openLiteral
  | '"' :: left => .ok ([], left)
  | '\\' :: rest =>
    match rest with
    | [] => .error .openLiteral
    | e :: rest =>
      match escaped? e with
      | some c => preceded [c] (readTemplate rest)
      | none => .error .badEscape
  | '$' :: '$' :: '\x7b' :: rest => preceded ['$', '\x7b'] (readTemplate rest)
  | '%' :: '%' :: '\x7b' :: rest => preceded ['%', '\x7b'] (readTemplate rest)
  | '$' :: '\x7b' :: _ => .error .template
  | '%' :: '\x7b' :: _ => .error .template
  | c :: rest => if isLineEnd c then .error .openLiteral else preceded [c] (readTemplate rest)

/-- **The literal that a text starts with**, if it starts with a quote, and what follows it. -/
def readLiteral (text : String) : Option (Except Fault (String × String)) :=
  match text.toList with
  | '"' :: rest =>
    some ((readTemplate rest).map fun (value, left) => (String.ofList value, String.ofList left))
  | _ => none

/-! ## One character -/

section

variable {c e : Char} {rest value left : List Char}

theorem readTemplate_escape (he : escaped? e = some c) (h : readTemplate rest = .ok (value, left)) :
    readTemplate ('\\' :: e :: rest) = .ok (c :: value, left) := by
  simp [readTemplate, he, h, preceded, Except.map]

theorem readTemplate_doubled (s : Sign) (h : readTemplate rest = .ok (value, left)) :
    readTemplate (s.char :: s.char :: '\x7b' :: rest) = .ok (s.char :: '\x7b' :: value, left) := by
  cases s <;> simp [Sign.char, readTemplate, h, preceded, Except.map]

theorem readTemplate_plain (hc : Plain c) (h : readTemplate rest = .ok (value, left)) :
    readTemplate (c :: rest) = .ok (c :: value, left) := by
  have hdollar : c ≠ '$' := hc.not_sign .dollar
  have hpercent : c ≠ '%' := hc.not_sign .percent
  simp [readTemplate, hc.not_quote, hc.not_backslash, hdollar, hpercent, hc.not_lineEnd, h, preceded,
    Except.map]

/-- **A sign is read as it is** where neither a brace follows nor its double and a brace. -/
theorem readTemplate_sign (s : Sign) (hbrace : ∀ more, rest ≠ '\x7b' :: more)
    (hdouble : ∀ more, rest ≠ s.char :: '\x7b' :: more)
    (h : readTemplate rest = .ok (value, left)) :
    readTemplate (s.char :: rest) = .ok (s.char :: value, left) := by
  have hend : isLineEnd s.char = false := by cases s <;> rfl
  cases s with
  | dollar =>
    simp only [Sign.char] at hdouble hend ⊢
    simp [readTemplate, hbrace, hdouble, hend, h, preceded, Except.map]
  | percent =>
    simp only [Sign.char] at hdouble hend ⊢
    simp [readTemplate, hbrace, hdouble, hend, h, preceded, Except.map]

end

/-! ## What is written for a string -/

variable {rest : List Char}

theorem head?_of_hclChars {t more : List Char} (h : hclChars rest ++ '"' :: t = '\x7b' :: more) :
    rest.head? = some '\x7b' := by
  cases rest with
  | nil => simp [hclChars] at h
  | cons c rest =>
    obtain ⟨e, -, hchars⟩ | ⟨s, rfl, hchars⟩ | ⟨-, hchars⟩ := hclChars_cons c rest
    · simp [hchars] at h
    · rw [hchars] at h
      split at h <;> cases s <;> simp [Sign.char] at h
    · rw [hchars] at h
      simp_all

/-- **What is written for a string opens no template**: a sign before a brace is the second of two. -/
theorem hclChars_not_template (s : Sign) {t more : List Char} :
    hclChars rest ++ '"' :: t ≠ s.char :: '\x7b' :: more := by
  intro h
  have hbrace : s.char ≠ '\x7b' := by cases s <;> decide
  cases rest with
  | nil => cases s <;> simp [hclChars, Sign.char] at h
  | cons c rest =>
    obtain ⟨e, -, hchars⟩ | ⟨s', rfl, hchars⟩ | ⟨hplain, hchars⟩ := hclChars_cons c rest
    · rw [hchars] at h
      exact escape_ne_sign s (List.cons.inj h).1
    · rw [hchars] at h
      by_cases hrest : rest.head? = some '\x7b'
      · rw [if_pos hrest] at h
        obtain ⟨heq, hnext⟩ := List.cons.inj h
        exact hbrace (heq ▸ (List.cons.inj hnext).1)
      · rw [if_neg hrest] at h
        exact hrest (head?_of_hclChars (List.cons.inj h).2)
    · rw [hchars] at h
      exact hplain.not_sign s (List.cons.inj h).1

/-- **The characters of a string are read back** up to the closing quote, whatever follows it. -/
theorem readTemplate_hclChars (t : List Char) :
    ∀ s : List Char, readTemplate (hclChars s ++ '"' :: t) = .ok (s, t)
  | [] => rfl
  | c :: rest => by
    have ih := readTemplate_hclChars t rest
    obtain ⟨e, he, hchars⟩ | ⟨s, rfl, hchars⟩ | ⟨hplain, hchars⟩ := hclChars_cons c rest
    · rw [hchars]
      exact readTemplate_escape he ih
    · rw [hchars]
      by_cases hrest : rest.head? = some '\x7b'
      · -- the doubled sign is read together with the brace, which is written as it is
        obtain ⟨more, rfl⟩ := List.head?_eq_some_iff.1 hrest
        rw [if_pos hrest]
        exact readTemplate_doubled s (readTemplate_hclChars t more)
      · rw [if_neg hrest]
        exact readTemplate_sign s (fun more h => hrest (head?_of_hclChars h))
          (fun more => hclChars_not_template s) ih
    · rw [hchars]
      exact readTemplate_plain hplain ih

theorem readLiteral_append (s t : String) : readLiteral (hclString s ++ t) = some (.ok (s, t)) := by
  have htext : (hclString s ++ t).toList = '"' :: (hclChars s.toList ++ '"' :: t.toList) := by
    simp [hclString]
  rw [readLiteral, htext]
  simp [readTemplate_hclChars, Except.map]

/-- **A string literal is read as its string**, whatever the string and whatever follows: the reader
opens no template and stops at the end of the literal. So no text that starts with a literal starts
with another one, and distinct strings have distinct literals. -/
theorem readLiteral_hclString :
    (∀ s t : String, readLiteral (hclString s ++ t) = some (.ok (s, t))) ∧
    (∀ s s' t t' : String, hclString s ++ t = hclString s' ++ t' ↔ s = s' ∧ t = t') ∧
    ∀ s s' : String, hclString s = hclString s' ↔ s = s' := by
  have hinj : ∀ s s' t t' : String, hclString s ++ t = hclString s' ++ t' ↔ s = s' ∧ t = t' := by
    intro s s' t t'
    constructor
    · intro h
      have hread := congrArg readLiteral h
      simpa [readLiteral_append] using hread
    · rintro ⟨rfl, rfl⟩
      rfl
  refine ⟨readLiteral_append, hinj, fun s s' => ?_⟩
  simpa using hinj s s' "" ""

/-- Signs before a brace, signs that are doubled already and an escape in front of a quote. -/
example : hclString "$\x7b$$\x7b%$\x7b\\\"" = "\"$$\x7b$$$\x7b%$$\x7b\\\\\\\"\"" := by decide

end CloudDiagram.Hcl

import CloudDiagram.Generation.Naming
import CloudDiagram.Proofs.Text.Decimal

/-!
# Reading resource files

A reader of the tokens of a resource file, one character at a time. A number sign starts a comment up
to the end of the line, and a double quote a template literal.

* `Hcl.Token`, `Hcl.Mode`, `Hcl.step`: the reader;
* `Hcl.scan`, `Hcl.lex`: the tokens of a text, `scan_append` one half after the other;
* **`scan_hclString`**: a string literal is read as its string, and the reader stops at its end.
-/

namespace CloudDiagram.Hcl

/-- The brackets that enclose something. -/
inductive Bracket
  | brace
  | square
  deriving DecidableEq

/-- **A token of a resource file.** -/
inductive Token
  | word (text : List Char)
  | string (value : String)
  | comment (text : String)
  | opening (b : Bracket)
  | closing (b : Bracket)
  | symbol (c : Char)
  | lineEnd
  deriving DecidableEq

/-- The signs that open a template before a brace. -/
inductive Sign
  | dollar
  | percent
  deriving DecidableEq

/-- A sign as a character. -/
def Sign.char : Sign → Char
  | dollar => '$'
  | percent => '%'

/-- **What the reader is in the middle of.** Inside a literal it knows the value so far, and whether
one sign, or two of them, were the last characters. -/
inductive Mode
  | code
  | word (text : List Char)
  | comment (text : List Char)
  | literal (value : List Char)
  | escape (value : List Char)
  | sign (value : List Char) (s : Sign)
  | signs (value : List Char) (s : Sign)
  deriving DecidableEq

/-- **Why a text is no resource file**: a literal is open at the end of its line or of the text, it
opens a template, or it has an escape that is not known. -/
inductive Fault
  | openLiteral
  | template
  | badEscape
  deriving DecidableEq

/-- The end of a line. -/
def isLineEnd (c : Char) : Bool := c == '\n' || c == '\r'

/-- A character of a name, a reference or a number. -/
def isWordChar (c : Char) : Bool :=
  ('a' ≤ c && c ≤ 'z') || ('A' ≤ c && c ≤ 'Z') || Text.isDigit c || c == '_' || c == '-' || c == '.'

/-- A character between tokens. -/
def codeStep (c : Char) : List Token × Mode :=
  match c with
  | '#' => ([], .comment [])
  | '"' => ([], .literal [])
  | '\x7b' => ([.opening .brace], .code)
  | '\x7d' => ([.closing .brace], .code)
  | '[' => ([.opening .square], .code)
  | ']' => ([.closing .square], .code)
  | ' ' => ([], .code)
  | '\t' => ([], .code)
  | _ =>
    if isLineEnd c then ([.lineEnd], .code)
    else if isWordChar c then ([], .word [c])
    else ([.symbol c], .code)

/-- A character of a literal. -/
def literalStep (value : List Char) (c : Char) : Except Fault (List Token × Mode) :=
  match c with
  | '"' => .ok ([.string (String.ofList value)], .code)
  | '\\' => .ok ([], .escape value)
  | '$' => .ok ([], .sign value .dollar)
  | '%' => .ok ([], .sign value .percent)
  | _ => if isLineEnd c then .error .openLiteral else .ok ([], .literal (value ++ [c]))

/-- The character that an escape stands for. -/
def escaped? : Char → Option Char
  | '"' => some '"'
  | '\\' => some '\\'
  | 'n' => some '\n'
  | 'r' => some '\r'
  | 't' => some '\t'
  | _ => none

/-- **One character.** -/
def step : Mode → Char → Except Fault (List Token × Mode)
  | .code, c => .ok (codeStep c)
  | .word text, c =>
    if isWordChar c then .ok ([], .word (text ++ [c]))
    else .ok (.word text :: (codeStep c).1, (codeStep c).2)
  | .comment text, c =>
    if isLineEnd c then .ok ([.comment (String.ofList text), .lineEnd], .code)
    else .ok ([], .comment (text ++ [c]))
  | .literal value, c => literalStep value c
  | .escape value, c =>
    match escaped? c with
    | some e => .ok ([], .literal (value ++ [e]))
    | none => .error .badEscape
  | .sign value s, c =>
    if c = '\x7b' then .error .template
    else if c = s.char then .ok ([], .signs value s)
    else literalStep (value ++ [s.char]) c
  | .signs value s, c =>
    -- a doubled sign stands for one before a brace only
    if c = '\x7b' then .ok ([], .literal (value ++ [s.char, c]))
    else if c = s.char then .ok ([], .signs (value ++ [s.char]) s)
    else literalStep (value ++ [s.char, s.char]) c

/-- **The tokens of a text**, and what the reader is in the middle of after it. -/
def scan : Mode → List Char → Except Fault (List Token × Mode)
  | m, [] => .ok ([], m)
  | m, c :: rest =>
    match step m c with
    | .error f => .error f
    | .ok (ts, next) =>
      match scan next rest with
      | .error f => .error f
      | .ok (us, last) => .ok (ts ++ us, last)

/-- The last token of a text. -/
def finish : Mode → Except Fault (List Token)
  | .code => .ok []
  | .word text => .ok [.word text]
  | .comment text => .ok [.comment (String.ofList text)]
  | _ => .error .openLiteral

/-- **The tokens of a resource file.** -/
def lex (text : String) : Except Fault (List Token) := do
  let (ts, m) ← scan .code text.toList
  let last ← finish m
  return ts ++ last

/-! ## Pieces of a text -/

theorem scan_cons {m next last : Mode} {c : Char} {rest : List Char} {ts us : List Token}
    (hstep : step m c = .ok (ts, next)) (hrest : scan next rest = .ok (us, last)) :
    scan m (c :: rest) = .ok (ts ++ us, last) := by
  simp only [scan, hstep, hrest]

theorem scan_one {m next : Mode} {c : Char} {ts : List Token}
    (hstep : step m c = .ok (ts, next)) : scan m [c] = .ok (ts, next) := by
  simp only [scan, hstep, List.append_nil]

theorem scan_append {m next last : Mode} {a b : List Char} {ts us : List Token}
    (ha : scan m a = .ok (ts, next)) (hb : scan next b = .ok (us, last)) :
    scan m (a ++ b) = .ok (ts ++ us, last) := by
  induction a generalizing m ts with
  | nil =>
    cases ha
    exact hb
  | cons c rest ih =>
    rw [scan] at ha
    split at ha
    · cases ha
    · rename_i firsts afterwards hstep
      split at ha
      · cases ha
      · rename_i others final hrest
        cases ha
        rw [List.cons_append, List.append_assoc]
        exact scan_cons hstep (ih hrest)

theorem lex_of_scan {text : String} {ts : List Token}
    (h : scan .code text.toList = .ok (ts, .code)) : lex text = .ok ts := by
  simp [lex, h, finish, bind, Except.bind, pure, Except.pure]

/-! ## Comments and words -/

theorem scan_comment_rest {text : List Char} (h : ∀ c ∈ text, isLineEnd c = false)
    (before : List Char) : scan (.comment before) (text ++ ['\n']) =
      .ok ([.comment (String.ofList (before ++ text)), .lineEnd], .code) := by
  induction text generalizing before with
  | nil =>
    rw [List.append_nil]
    exact scan_one rfl
  | cons c rest ih =>
    obtain ⟨hc, hrest⟩ := List.forall_mem_cons.1 h
    have hstep : step (.comment before) c = .ok ([], .comment (before ++ [c])) := by
      simp only [step, hc, Bool.false_eq_true, if_false]
    have hmore := ih hrest (before ++ [c])
    rw [List.append_assoc] at hmore
    exact scan_cons hstep hmore

theorem scan_comment {text : List Char} (h : ∀ c ∈ text, isLineEnd c = false) :
    scan .code ('#' :: (text ++ ['\n'])) =
      .ok ([.comment (String.ofList text), .lineEnd], .code) := by
  have hstep : step .code '#' = .ok ([], .comment []) := rfl
  exact scan_cons hstep (scan_comment_rest h [])

theorem scan_word_rest {text : List Char} (h : ∀ c ∈ text, isWordChar c = true)
    (before : List Char) : scan (.word before) (text ++ ['\n']) =
      .ok ([.word (before ++ text), .lineEnd], .code) := by
  induction text generalizing before with
  | nil =>
    rw [List.append_nil]
    exact scan_one rfl
  | cons c rest ih =>
    obtain ⟨hc, hrest⟩ := List.forall_mem_cons.1 h
    have hstep : step (.word before) c = .ok ([], .word (before ++ [c])) := by
      simp only [step, hc, if_true]
    have hmore := ih hrest (before ++ [c])
    rw [List.append_assoc] at hmore
    exact scan_cons hstep hmore

theorem isWordChar_of_isDigit {c : Char} (h : Text.isDigit c = true) : isWordChar c = true := by
  simp [isWordChar, h]

theorem codeStep_of_isDigit {c : Char} (h : Text.isDigit c = true) :
    codeStep c = ([], .word [c]) := by
  have hne : ∀ d : Char, Text.isDigit d = false → c ≠ d := by
    rintro d hd rfl
    rw [h] at hd
    cases hd
  have hend : isLineEnd c = false := by
    rw [isLineEnd, beq_false_of_ne (hne '\n' (by decide)), beq_false_of_ne (hne '\r' (by decide))]
    rfl
  unfold codeStep
  split
  case h_9 => rw [hend, isWordChar_of_isDigit h]; rfl
  all_goals exact absurd rfl (hne _ (by decide))

theorem scan_numeral (n : Nat) : scan .code (Text.numeral n ++ ['\n']) =
    .ok ([.word (Text.numeral n), .lineEnd], .code) := by
  obtain ⟨c, rest, heq⟩ := List.exists_cons_of_ne_nil (Text.numeral_ne_nil n)
  have hdigits : ∀ d ∈ c :: rest, Text.isDigit d = true := fun d hd =>
    Text.isDigit_of_mem_numeral (heq ▸ hd)
  obtain ⟨hc, hrest⟩ := List.forall_mem_cons.1 hdigits
  have hstep : step .code c = .ok ([], .word [c]) := congrArg _ (codeStep_of_isDigit hc)
  rw [heq]
  exact scan_cons hstep (scan_word_rest (fun d hd => isWordChar_of_isDigit (hrest d hd)) [c])

/-! ## Literals -/

/-- A character that stands for itself in a literal. -/
structure Plain (c : Char) : Prop where
  not_quote : c ≠ '"'
  not_backslash : c ≠ '\\'
  not_lineEnd : isLineEnd c = false
  not_sign : ∀ s : Sign, c ≠ s.char

/-- **How one character is written**: as an escape, as a sign that is doubled before a brace, or as it
is. -/
theorem hclChars_cons (c : Char) (rest : List Char) :
    (∃ e, escaped? e = some c ∧ hclChars (c :: rest) = '\\' :: e :: hclChars rest) ∨
    (∃ s : Sign, c = s.char ∧ hclChars (c :: rest) =
      (if rest.head? = some '\x7b' then [c, c] else [c]) ++ hclChars rest) ∨
    Plain c ∧ hclChars (c :: rest) = c :: hclChars rest := by
  rw [hclChars.eq_def]
  dsimp only
  split
  · exact .inl ⟨'"', rfl, rfl⟩
  · exact .inl ⟨'\\', rfl, rfl⟩
  · exact .inl ⟨'n', rfl, rfl⟩
  · exact .inl ⟨'r', rfl, rfl⟩
  · exact .inl ⟨'t', rfl, rfl⟩
  · exact .inr (.inl ⟨.dollar, rfl, rfl⟩)
  · exact .inr (.inl ⟨.percent, rfl, rfl⟩)
  · rename_i hquote hbackslash hfeed hreturn htab hdollar hpercent
    refine .inr (.inr ⟨⟨hquote, hbackslash, ?_, fun s => ?_⟩, rfl⟩)
    · simp only [isLineEnd, Bool.or_eq_false_iff, beq_eq_false_iff_ne]
      exact ⟨hfeed, hreturn⟩
    · cases s
      · exact hdollar
      · exact hpercent

/-- **What the reader has read of a literal**, before the rest of the string: a single sign is not
before a brace, and a doubled one that is stands for one. -/
inductive Inside : Mode → List Char → List Char → Prop
  | literal (value rest : List Char) : Inside (.literal value) rest value
  | sign (value : List Char) (s : Sign) {rest : List Char} (h : rest.head? ≠ some '\x7b') :
      Inside (.sign value s) rest (value ++ [s.char])
  | signs (value : List Char) (s : Sign) {rest : List Char} (h : rest.head? ≠ some '\x7b') :
      Inside (.signs value s) rest (value ++ [s.char, s.char])
  | doubled (value : List Char) (s : Sign) {rest : List Char} (h : rest.head? = some '\x7b') :
      Inside (.signs value s) rest (value ++ [s.char])

variable {m : Mode} {rest value : List Char}

/-- A character that is neither a brace nor a sign comes after the signs before it. -/
theorem Inside.step_eq (h : Inside m rest value) (hrest : rest.head? ≠ some '\x7b') {c : Char}
    (hbrace : c ≠ '\x7b') (hsign : ∀ s : Sign, c ≠ s.char) : step m c = literalStep value c := by
  cases h with
  | literal => rfl
  | sign value s => simp only [step, if_neg hbrace, if_neg (hsign s)]
  | signs value s => simp only [step, if_neg hbrace, if_neg (hsign s)]
  | doubled value s h => exact absurd h hrest

/-- A sign is put off, since its meaning depends on what follows. -/
theorem Inside.step_sign (h : Inside m rest value) (hrest : rest.head? ≠ some '\x7b') (s : Sign) :
    ∃ next, step m s.char = .ok ([], next) ∧
      (next = .sign value s ∨ ∃ before, value = before ++ [s.char] ∧ next = .signs before s) := by
  cases h with
  | literal =>
    refine ⟨_, ?_, .inl rfl⟩
    cases s <;> rfl
  | sign before t =>
    by_cases ht : t = s
    · subst ht
      refine ⟨.signs before t, ?_, .inr ⟨before, rfl, rfl⟩⟩
      cases t <;> rfl
    · refine ⟨.sign (before ++ [t.char]) s, ?_, .inl rfl⟩
      cases s <;> cases t <;> first | rfl | exact absurd rfl ht
  | signs before t =>
    by_cases ht : t = s
    · subst ht
      refine ⟨.signs (before ++ [t.char]) t, ?_, .inr ⟨before ++ [t.char], by simp, rfl⟩⟩
      cases t <;> rfl
    · refine ⟨.sign (before ++ [t.char, t.char]) s, ?_, .inl rfl⟩
      cases s <;> cases t <;> first | rfl | exact absurd rfl ht
  | doubled before t h => exact absurd h hrest

theorem escape_ne_sign (s : Sign) : '\\' ≠ s.char := by
  cases s <;> decide

theorem Plain.literalStep {c : Char} (h : Plain c) (value : List Char) :
    Hcl.literalStep value c = .ok ([], .literal (value ++ [c])) := by
  have hdollar : c ≠ '$' := h.not_sign .dollar
  have hpercent : c ≠ '%' := h.not_sign .percent
  unfold Hcl.literalStep
  split
  · exact absurd rfl h.not_quote
  · exact absurd rfl h.not_backslash
  · exact absurd rfl hdollar
  · exact absurd rfl hpercent
  · rw [h.not_lineEnd]
    rfl

theorem scan_plain {text : List Char} (h : ∀ c ∈ text, Plain c) (value : List Char) :
    scan (.literal value) text = .ok ([], .literal (value ++ text)) := by
  induction text generalizing value with
  | nil => rw [List.append_nil, scan]
  | cons c rest ih =>
    obtain ⟨hc, hrest⟩ := List.forall_mem_cons.1 h
    have hstep : step (.literal value) c = .ok ([], .literal (value ++ [c])) := hc.literalStep value
    have hmore := ih hrest (value ++ [c])
    rw [List.append_assoc] at hmore
    exact scan_cons hstep hmore

theorem plain_brace : Plain '\x7b' :=
  ⟨by decide, by decide, by decide, fun s => by cases s <;> decide⟩

/-- **One character of a string**, as it is written, adds that character to what has been read. -/
theorem Inside.scan_char {c : Char} (h : Inside m (c :: rest) value) :
    ∃ written next, hclChars (c :: rest) = written ++ hclChars rest ∧
      scan m written = .ok ([], next) ∧ Inside next rest (value ++ [c]) := by
  have hbrace : (c :: rest).head? ≠ some '\x7b' ↔ c ≠ '\x7b' := by simp
  obtain ⟨e, he, hchars⟩ | ⟨s, rfl, hchars⟩ | ⟨hplain, hchars⟩ := hclChars_cons c rest
  · have hc : c ≠ '\x7b' := by
      rintro rfl
      unfold escaped? at he
      split at he <;> cases he
    refine ⟨['\\', e], .literal (value ++ [c]), hchars, ?_, .literal _ _⟩
    have hstep := h.step_eq (hbrace.2 hc) (by decide) escape_ne_sign
    refine scan_cons hstep (scan_one ?_)
    simp only [step, he]
  · have hc : s.char ≠ '\x7b' := by cases s <;> decide
    obtain ⟨next, hstep, hnext⟩ := h.step_sign (hbrace.2 hc) s
    by_cases hrest : rest.head? = some '\x7b'
    · rw [if_pos hrest] at hchars
      refine ⟨_, .signs value s, hchars, ?_, .doubled value s hrest⟩
      refine scan_cons hstep (scan_one ?_)
      rcases hnext with rfl | ⟨before, rfl, rfl⟩ <;> cases s <;> rfl
    · rw [if_neg hrest] at hchars
      refine ⟨_, next, hchars, scan_one hstep, ?_⟩
      rcases hnext with rfl | ⟨before, rfl, rfl⟩
      · exact .sign value s hrest
      · rw [List.append_assoc]
        exact .signs before s hrest
  · refine ⟨[c], .literal (value ++ [c]), hchars, ?_, .literal _ _⟩
    refine scan_one ?_
    by_cases hc : c = '\x7b'
    · subst hc
      cases h with
      | literal => exact plain_brace.literalStep value
      | sign before s h => exact absurd rfl h
      | signs before s h => exact absurd rfl h
      | doubled before s h => rw [List.append_assoc]; rfl
    · rw [h.step_eq (hbrace.2 hc) hc hplain.not_sign]
      exact hplain.literalStep value

/-- The rest of a string, up to the closing quote. -/
theorem Inside.scan_rest (h : Inside m rest value) :
    scan m (hclChars rest ++ ['"']) =
      .ok ([.string (String.ofList (value ++ rest))], .code) := by
  induction rest generalizing m value with
  | nil =>
    have hquote := h.step_eq (by simp) (c := '"') (by decide) fun s => by cases s <;> decide
    rw [List.append_nil]
    exact scan_one hquote
  | cons c rest ih =>
    obtain ⟨written, next, hchars, hscan, hnext⟩ := h.scan_char
    rw [hchars, List.append_assoc]
    have hrest := ih hnext
    rw [List.append_assoc] at hrest
    exact scan_append hscan hrest

/-- **A string literal is read as its string**, whatever the string, and the reader is between tokens
after it. -/
theorem scan_hclString (s : String) :
    scan .code (hclString s).toList = .ok ([.string s], .code) := by
  rw [hclString, String.toList_ofList]
  have hquote : step .code '"' = .ok ([], .literal []) := rfl
  have hrest := (Inside.literal [] s.toList).scan_rest
  rw [List.nil_append, String.ofList_toList] at hrest
  exact scan_cons hquote hrest

end CloudDiagram.Hcl

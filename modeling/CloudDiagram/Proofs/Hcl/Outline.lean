import CloudDiagram.Proofs.Hcl.Lexer

/-!
# The outline of a resource file

* `Hcl.Heading`, `Hcl.outline`: the blocks and comments at the top level, where nothing else may
  stand;
* `Hcl.Balanced`: brackets that are closed as often as opened, and never before, see
  `balanced_of_follow`;
* `Hcl.references`, `Heading.declares`: the names that are looked up, and those that a block gives;
* `Hcl.Passes`: what a piece of text adds to the outline, `Passes.append` one piece after the other.
-/

namespace CloudDiagram.Hcl

/-- **What stands at the top level**: a comment, or a block with its type and labels. -/
inductive Heading
  | comment
  | block (type : String) (labels : List String)
  deriving DecidableEq

/-- **Where in a file a token stands.** Inside a block the open brackets are known, the innermost
first. -/
inductive Place
  | top
  | heading (type : String) (labels : List String)
  | inside (b : Bracket) (outer : List Bracket)
  | closed
  deriving DecidableEq

/-- One token: the headings that it completes, and the place after it. -/
def outlineStep : Place → Token → Option (List Heading × Place)
  | .top, .lineEnd => some ([], .top)
  | .top, .comment _ => some ([.comment], .top)
  | .top, .word w => some ([], .heading (String.ofList w) [])
  | .heading type labels, .string s => some ([], .heading type (labels ++ [s]))
  | .heading type labels, .opening .brace => some ([.block type labels], .inside .brace [])
  | .inside b outer, .opening b' => some ([], .inside b' (b :: outer))
  | .inside b outer, .closing b' =>
    if b = b' then
      match outer with
      | [] => some ([], .closed)
      | b :: outer => some ([], .inside b outer)
    else none
  | .inside b outer, _ => some ([], .inside b outer)
  | .closed, .lineEnd => some ([], .top)
  | _, _ => none

/-- The headings that tokens complete, and the place after them. -/
def follow : Place → List Token → Option (List Heading × Place)
  | p, [] => some ([], p)
  | p, t :: rest =>
    match outlineStep p t with
    | none => none
    | some (hs, next) =>
      match follow next rest with
      | none => none
      | some (others, last) => some (hs ++ others, last)

/-- **The outline of a file**: what stands at its top level, if that is in order. -/
def outline (ts : List Token) : Option (List Heading) :=
  match follow .top ts with
  | some (hs, .top) => some hs
  | _ => none

/-! ## Brackets -/

/-- **The brackets are balanced**: none is closed before it is opened, and all are closed. -/
def Balanced (b : Bracket) (ts : List Token) : Prop :=
  (∀ start, start <+: ts → start.count (.closing b) ≤ start.count (.opening b)) ∧
    ts.count (.closing b) = ts.count (.opening b)

/-- The brackets that are open at a place. -/
def Place.opened : Place → List Bracket
  | .inside b outer => b :: outer
  | _ => []

/-- What is open at a place changes by what is opened and closed. -/
theorem count_of_outlineStep (b : Bracket) {p next : Place} {t : Token} {hs : List Heading}
    (h : outlineStep p t = some (hs, next)) :
    p.opened.count b + [t].count (.opening b) = next.opened.count b + [t].count (.closing b) := by
  unfold outlineStep at h
  split at h
  case h_7 b₁ outer b₂ =>
    split at h
    · subst b₂
      split at h <;> cases h <;> simp [Place.opened, List.count_cons]
    · cases h
  case h_8 hopening hclosing =>
    have ho : t ≠ .opening b := hopening b
    have hc : t ≠ .closing b := hclosing b
    cases h
    simp [Place.opened, List.count_cons, ho, hc]
  all_goals cases h
  all_goals simp [Place.opened, List.count_cons]

theorem follow_cons {p next last : Place} {t : Token} {rest : List Token} {hs hs' : List Heading}
    (hstep : outlineStep p t = some (hs, next)) (hrest : follow next rest = some (hs', last)) :
    follow p (t :: rest) = some (hs ++ hs', last) := by
  simp only [follow, hstep, hrest]

theorem exists_of_follow_cons {p last : Place} {t : Token} {rest : List Token} {hs : List Heading}
    (h : follow p (t :: rest) = some (hs, last)) :
    ∃ next firsts others, outlineStep p t = some (firsts, next) ∧
      follow next rest = some (others, last) ∧ hs = firsts ++ others := by
  rw [follow] at h
  split at h
  · cases h
  · rename_i firsts next hstep
    split at h
    · cases h
    · rename_i others final hrest
      cases h
      exact ⟨next, firsts, others, hstep, hrest, rfl⟩

theorem count_of_follow (b : Bracket) {p last : Place} {ts : List Token} {hs : List Heading}
    (h : follow p ts = some (hs, last)) :
    p.opened.count b + ts.count (.opening b) = last.opened.count b + ts.count (.closing b) := by
  induction ts generalizing p hs with
  | nil =>
    cases h
    rfl
  | cons t rest ih =>
    obtain ⟨next, firsts, others, hstep, hrest, -⟩ := exists_of_follow_cons h
    have hfirst := count_of_outlineStep b hstep
    have hothers := ih hrest
    rw [← List.singleton_append, List.count_append, List.count_append]
    omega

theorem follow_append {p next last : Place} {ts us : List Token} {hs hs' : List Heading}
    (hts : follow p ts = some (hs, next)) (hus : follow next us = some (hs', last)) :
    follow p (ts ++ us) = some (hs ++ hs', last) := by
  induction ts generalizing p hs with
  | nil =>
    cases hts
    exact hus
  | cons t rest ih =>
    obtain ⟨afterwards, firsts, others, hstep, hrest, rfl⟩ := exists_of_follow_cons hts
    rw [List.append_assoc]
    exact follow_cons hstep (ih hrest)

theorem exists_follow_start {p last : Place} {start rest : List Token} {hs : List Heading}
    (h : follow p (start ++ rest) = some (hs, last)) :
    ∃ next firsts, follow p start = some (firsts, next) := by
  induction start generalizing p hs with
  | nil => exact ⟨p, [], rfl⟩
  | cons t more ih =>
    obtain ⟨next, firsts, others, hstep, hrest, -⟩ := exists_of_follow_cons h
    obtain ⟨final, headings, hmore⟩ := ih hrest
    exact ⟨final, firsts ++ headings, follow_cons hstep hmore⟩

/-- **In a file with an outline the brackets are balanced.** -/
theorem balanced_of_follow (b : Bracket) {ts : List Token} {hs : List Heading}
    (h : follow .top ts = some (hs, .top)) : Balanced b ts := by
  constructor
  · rintro start ⟨rest, rfl⟩
    obtain ⟨next, firsts, hstart⟩ := exists_follow_start h
    have hcount := count_of_follow b hstart
    simp only [Place.opened, List.count_nil] at hcount
    omega
  · have hcount := count_of_follow b h
    simp only [Place.opened, List.count_nil] at hcount
    omega

/-! ## References -/

/-- The token as a reference, if it is a word that looks a variable or a data source up. -/
def reference? : Token → Option String
  | .word w =>
    if ['v', 'a', 'r', '.'].isPrefixOf w || ['d', 'a', 't', 'a', '.'].isPrefixOf w then
      some (String.ofList w)
    else none
  | _ => none

/-- **The references outside of strings.** -/
def references (ts : List Token) : List String := ts.filterMap reference?

/-- **The block gives what the reference looks up**: a variable, or a data source or a part of it. -/
def Heading.declares : Heading → String → Prop
  | .block "variable" [name], w => w = "var." ++ name
  | .block "data" [type, name], w =>
    w = "data." ++ type ++ "." ++ name ∨ ∃ part, w = "data." ++ type ++ "." ++ name ++ "." ++ part
  | _, _ => False

/-! ## Pieces of a file -/

/-- **What a piece of text adds to a file**: headings and references, on the way from one place to
another. The reader is between tokens before and after it. -/
def Passes (p : Place) (text : List Char) (hs : List Heading) (refs : List String) (q : Place) :
    Prop :=
  ∃ ts, scan .code text = .ok (ts, .code) ∧ follow p ts = some (hs, q) ∧ references ts = refs

variable {p q r : Place} {hs hs' : List Heading} {refs refs' : List String} {a b : List Char}

theorem Passes.append (ha : Passes p a hs refs q) (hb : Passes q b hs' refs' r) :
    Passes p (a ++ b) (hs ++ hs') (refs ++ refs') r := by
  obtain ⟨ts, hscan, hfollow, rfl⟩ := ha
  obtain ⟨us, hscan', hfollow', rfl⟩ := hb
  exact ⟨ts ++ us, scan_append hscan hscan', follow_append hfollow hfollow',
    List.filterMap_append⟩

/-- What a fixed piece of text adds. -/
def survey (p : Place) (text : List Char) : Option (List Heading × List String × Place) :=
  match scan .code text with
  | .ok (ts, .code) => (follow p ts).map fun (hs, q) => (hs, references ts, q)
  | _ => none

theorem Passes.fixed {l : List Char} (h : survey p l = some (hs, refs, q)) :
    Passes p l hs refs q := by
  unfold survey at h
  split at h
  · rename_i ts hscan
    obtain ⟨⟨headings, next⟩, hfollow, heq⟩ := Option.map_eq_some_iff.1 h
    cases heq
    exact ⟨ts, hscan, hfollow, rfl⟩
  · cases h

theorem Passes.string (b : Bracket) (outer : List Bracket) (s : String) :
    Passes (.inside b outer) (hclString s).toList [] [] (.inside b outer) :=
  ⟨[.string s], scan_hclString s, rfl, rfl⟩

theorem Passes.comment {text : List Char} (h : ∀ c ∈ text, isLineEnd c = false) :
    Passes .top ('#' :: (text ++ ['\n'])) [.comment] [] .top :=
  ⟨_, scan_comment h, rfl, rfl⟩

theorem reference?_numeral (n : Nat) : reference? (.word (Text.numeral n)) = none := by
  obtain ⟨c, rest, heq⟩ := List.exists_cons_of_ne_nil (Text.numeral_ne_nil n)
  have hc : Text.isDigit c = true := Text.isDigit_of_mem_numeral (heq ▸ List.mem_cons_self)
  have hfirst {d : Char} (hd : Text.isDigit d = false) (more : List Char) :
      (d :: more).isPrefixOf (c :: rest) = false := by
    have hne : d ≠ c := by
      rintro rfl
      rw [hc] at hd
      cases hd
    rw [List.isPrefixOf, beq_false_of_ne hne, Bool.false_and]
  rw [heq, reference?, hfirst (by decide), hfirst (by decide)]
  rfl

theorem Passes.numeral (b : Bracket) (outer : List Bracket) (n : Nat) :
    Passes (.inside b outer) (Text.numeral n ++ ['\n']) [] [] (.inside b outer) := by
  refine ⟨_, scan_numeral n, rfl, ?_⟩
  simp only [references, List.filterMap_cons, reference?_numeral]
  rfl

end CloudDiagram.Hcl

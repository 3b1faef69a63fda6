import CloudDiagram.Text.Blank
import Mathlib.Computability.RegularExpressions

/-!
# Implicit types of plain scalars

A scalar without quotes is a string unless it has the form of something else.

* `Yaml.Tag`, `Yaml.implicitTag`: the type that a reader gives to a plain scalar, where a form of
  version 1.1 or of version 1.2 counts;
* `Pattern.firsts`: the characters that a match can start with, see `mem_firsts_of_rmatch`;
* **`implicitTag_eq_string`**: what starts like no number or date and is no reserved word is a string.
-/

namespace CloudDiagram.Yaml

open Text RegularExpression

/-- **The type of a scalar.** -/
inductive Tag
  | string
  | null
  | bool
  | int
  | float
  | timestamp
  | merge
  | value
  deriving DecidableEq

/-! ## Patterns -/

/-- A form of scalars. -/
abbrev Pattern := RegularExpression Char

namespace Pattern

/-- One of some characters. -/
def oneOf (cs : List Char) : Pattern := cs.foldr (fun c p => char c + p) 0

/-- Some characters one after the other. -/
def exactly (cs : List Char) : Pattern := cs.foldr (fun c p => char c * p) 1

/-- At most once. -/
def optional (p : Pattern) : Pattern := 1 + p

/-- Once or more. -/
def several (p : Pattern) : Pattern := p * star p

/-- A decimal digit. -/
def digit : Pattern := oneOf ['0', '1', '2', '3', '4', '5', '6', '7', '8', '9']

/-- A decimal digit or an underscore. -/
def spacedDigit : Pattern := digit + char '_'

/-- A digit other than zero. -/
def leadingDigit : Pattern := oneOf ['1', '2', '3', '4', '5', '6', '7', '8', '9']

/-- A hexadecimal digit. -/
def hexDigit : Pattern :=
  digit + oneOf ['a', 'b', 'c', 'd', 'e', 'f', 'A', 'B', 'C', 'D', 'E', 'F']

/-- A sign, or none. -/
def sign : Pattern := optional (oneOf ['+', '-'])

/-- One digit or two. -/
def oneOrTwo : Pattern := digit * optional digit

/-- Places of a number to the base of sixty. -/
def sixtieths : Pattern :=
  several (char ':' * (optional (oneOf ['0', '1', '2', '3', '4', '5']) * digit))

/-- **Integers**: to the bases two, eight, ten, sixteen and sixty. -/
def integers : List Pattern := [
  sign * (exactly ['0', 'b'] * several (oneOf ['0', '1', '_'])),
  sign * (char '0' * several (oneOf ['0', '1', '2', '3', '4', '5', '6', '7', '_'])),
  sign * (char '0' + leadingDigit * star spacedDigit),
  sign * (exactly ['0', 'x'] * several (hexDigit + char '_')),
  sign * (leadingDigit * star spacedDigit * sixtieths),
  sign * several digit,
  exactly ['0', 'o'] * several (oneOf ['0', '1', '2', '3', '4', '5', '6', '7'])]

/-- **Floating-point numbers**: decimals, to the base of sixty, infinities and what is no number. -/
def floats : List Pattern := [
  sign * (optional (digit * star spacedDigit) * (char '.' * (star (digit + char '.') *
    optional (oneOf ['e', 'E'] * (oneOf ['+', '-'] * several digit))))),
  sign * (digit * star spacedDigit * (sixtieths * (char '.' * star spacedDigit))),
  sign * ((char '.' * several digit + several digit * optional (char '.' * star digit)) *
    optional (oneOf ['e', 'E'] * (sign * several digit))),
  sign * (char '.' * (exactly ['i', 'n', 'f'] + exactly ['I', 'n', 'f'] + exactly ['I', 'N', 'F'])),
  char '.' * (exactly ['n', 'a', 'n'] + exactly ['N', 'a', 'N'] + exactly ['N', 'A', 'N'])]

/-- A year, a month and a day. -/
def date : Pattern :=
  digit * digit * (digit * digit) * (char '-' * (oneOrTwo * (char '-' * oneOrTwo)))

/-- A time of day. -/
def time : Pattern :=
  oneOrTwo * (char ':' * (digit * digit * (char ':' * (digit * digit *
    optional (char '.' * star digit)))))

/-- A time zone. -/
def zone : Pattern :=
  star (oneOf [' ', '\t']) *
    (char 'Z' + oneOf ['+', '-'] * (oneOrTwo * optional (char ':' * (digit * digit))))

/-- **Dates**, alone or with a time. -/
def timestamps : List Pattern := [
  date,
  date * ((oneOf ['T', 't'] + several (oneOf [' ', '\t'])) * (time * optional zone))]

/-! ## The start of a match -/

/-- **The characters that a match can start with.** -/
def firsts : Pattern → List Char
  | .zero => []
  | .epsilon => []
  | .char c => [c]
  | .plus p q => firsts p ++ firsts q
  | .comp p q => firsts p ++ if p.matchEpsilon then firsts q else []
  | .star p => firsts p

theorem mem_firsts_of_rmatch {p : Pattern} {c : Char} {s : List Char}
    (h : p.rmatch (c :: s) = true) : c ∈ firsts p := by
  induction p generalizing s with
  | zero =>
    rw [zero_def, zero_rmatch] at h
    cases h
  | epsilon =>
    rw [one_def, one_rmatch_iff] at h
    cases h
  | char a =>
    rw [char_rmatch_iff] at h
    rw [(List.cons.inj h).1]
    exact List.mem_singleton_self a
  | plus p q ihp ihq =>
    rw [plus_def, add_rmatch_iff] at h
    exact List.mem_append.2 (h.imp ihp ihq)
  | comp p q ihp ihq =>
    rw [comp_def, mul_rmatch_iff] at h
    obtain ⟨t, u, htext, ht, hu⟩ := h
    refine List.mem_append.2 ?_
    cases t with
    | nil =>
      -- the first factor matches the empty text, so the match starts in the second one
      rw [List.nil_append] at htext
      have hempty : p.matchEpsilon = true := ht
      rw [if_pos hempty]
      exact .inr (ihq (htext ▸ hu))
    | cons d t =>
      obtain ⟨rfl, -⟩ := List.cons.inj htext
      exact .inl (ihp ht)
  | star p ih =>
    rw [star_rmatch_iff] at h
    obtain ⟨parts, htext, hparts⟩ := h
    cases parts with
    | nil => cases htext
    | cons t rest =>
      obtain ⟨hne, ht⟩ := hparts t List.mem_cons_self
      obtain ⟨d, t, rfl⟩ := List.exists_cons_of_ne_nil hne
      obtain ⟨rfl, -⟩ := List.cons.inj htext
      exact ih ht

/-- The characters with which a number or a date starts. -/
def numberStarts : List Char := ['0', '1', '2', '3', '4', '5', '6', '7', '8', '9', '+', '-', '.']

theorem firsts_subset {p : Pattern} (h : p ∈ integers ++ floats ++ timestamps) :
    firsts p ⊆ numberStarts := by
  have hall : ∀ p ∈ integers ++ floats ++ timestamps, firsts p ⊆ numberStarts := by decide
  exact hall p h

end Pattern

/-! ## The type of a plain scalar -/

/-- The words for nothing, in lower case. -/
def nullWords : List String := ["", "~", "null"]

/-- The words for truth values, in lower case. -/
def boolWords : List String := ["y", "n", "yes", "no", "on", "off", "true", "false"]

/-- **The type of a plain scalar.** Letters of words may be of either case. -/
def implicitTag (s : String) : Tag :=
  if nullWords.contains (toAsciiLower s) then .null
  else if boolWords.contains (toAsciiLower s) then .bool
  else if Pattern.integers.any (·.rmatch s.toList) then .int
  else if Pattern.floats.any (·.rmatch s.toList) then .float
  else if Pattern.timestamps.any (·.rmatch s.toList) then .timestamp
  else if s = "<<" then .merge
  else if s = "=" then .value
  else .string

theorem rmatch_eq_false {c : Char} {rest : List Char} (hstart : c ∉ Pattern.numberStarts) {p : Pattern}
    (hp : p ∈ Pattern.integers ++ Pattern.floats ++ Pattern.timestamps) :
    p.rmatch (c :: rest) = false :=
  Bool.eq_false_iff.2 fun hmatch =>
    hstart (Pattern.firsts_subset hp (Pattern.mem_firsts_of_rmatch hmatch))

/-- **What starts like no number or date and is no reserved word is a string.** -/
theorem implicitTag_eq_string {s : String} {c : Char} {rest : List Char} (hs : s.toList = c :: rest)
    (hstart : c ∉ Pattern.numberStarts) (hwords : toAsciiLower s ∉ nullWords ++ boolWords)
    (hkeys : s ∉ ["<<", "="]) : implicitTag s = .string := by
  have hnone : ∀ ps, ps ⊆ Pattern.integers ++ Pattern.floats ++ Pattern.timestamps →
      ps.any (·.rmatch s.toList) = false := by
    intro ps hps
    rw [List.any_eq_false, hs]
    exact fun p hp => Bool.eq_false_iff.1 (rmatch_eq_false hstart (hps hp))
  have hintegers := hnone Pattern.integers (by simp)
  have hfloats := hnone Pattern.floats (by simp)
  have htimestamps := hnone Pattern.timestamps (by simp)
  rw [List.mem_append, not_or] at hwords
  simp only [List.mem_cons, List.not_mem_nil, or_false, not_or] at hkeys
  simp only [implicitTag, List.contains_eq_mem, hwords, hintegers, hfloats, htimestamps, hkeys,
    decide_false, if_false, Bool.false_eq_true]

end CloudDiagram.Yaml

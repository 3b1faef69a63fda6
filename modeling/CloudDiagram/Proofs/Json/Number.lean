import CloudDiagram.Proofs.Json.Numeral
import CloudDiagram.Proofs.Text.Decimal
import Mathlib.Data.List.TakeWhile

/-!
# Numbers read from their own text

* `isNumberChar_of_mem_chars`: which characters the text of a number has;
* `Number.ReadsBack`: a number that is read from its own text;
* **`Number.readsBack_integer`**: every integer is such a number.
-/

namespace CloudDiagram.Json

open Text

/-! ## The characters of a number -/

theorem isNumberChar_of_mem_numeral {n : Nat} {c : Char} (h : c ∈ numeral n) :
    isNumberChar c = true := by
  simp [isNumberChar, isDigit_of_mem_numeral h]

theorem isNumberChar_of_mem_integer {i : Int} {c : Char} (h : c ∈ integer i) :
    isNumberChar c = true := by
  unfold integer at h
  split at h
  · rcases List.mem_cons.1 h with rfl | h
    · decide
    · exact isNumberChar_of_mem_numeral h
  · exact isNumberChar_of_mem_numeral h

theorem isNumberChar_of_mem_positional {digits : List Char} {top : Int} {c : Char}
    (hdigits : ∀ d ∈ digits, isNumberChar d = true)
    (h : c ∈ positionalDigits jsonLayout.wholeMark digits top) : isNumberChar c = true := by
  have hzero : ∀ k : Nat, ∀ d ∈ List.replicate k '0', isNumberChar d = true := fun k d hd => by
    rw [List.eq_of_mem_replicate hd]
    decide
  have hpoint : isNumberChar '.' = true := by decide
  unfold positionalDigits at h
  split at h
  · simp only [List.mem_append, List.mem_cons, List.not_mem_nil, or_false] at h
    rcases h with ((rfl | rfl) | h) | h
    · decide
    · exact hpoint
    · exact hzero _ c h
    · exact hdigits c h
  · dsimp only at h
    split at h
    · simp only [List.mem_append, jsonLayout, List.mem_cons, List.not_mem_nil, or_false] at h
      rcases h with (h | h) | rfl | rfl
      · exact hdigits c h
      · exact hzero _ c h
      · exact hpoint
      · decide
    · simp only [List.mem_append, List.mem_singleton] at h
      rcases h with (h | rfl) | h
      · exact hdigits c (List.mem_of_mem_take h)
      · exact hpoint
      · exact hdigits c (List.mem_of_mem_drop h)

theorem isNumberChar_of_mem_scientific {digits : List Char} {top : Int} {c : Char}
    (hdigits : ∀ d ∈ digits, isNumberChar d = true) (h : c ∈ scientificDigits digits top) :
    isNumberChar c = true := by
  simp only [scientificDigits, List.mem_append, List.mem_cons, List.not_mem_nil, or_false] at h
  rcases h with ((h | h) | h) | h
  · exact hdigits c (List.mem_of_mem_take h)
  · split at h
    · simp at h
    · rcases List.mem_cons.1 h with rfl | h
      · decide
      · exact hdigits c (List.mem_of_mem_drop h)
  · rcases h with rfl | h
    · decide
    · rw [h]
      split <;> decide
  · exact isNumberChar_of_mem_numeral h

theorem isNumberChar_of_mem_writeRank {rank : Nat} {c : Char} (h : c ∈ jsonLayout.writeRank rank) :
    isNumberChar c = true := by
  unfold Layout.writeRank at h
  split at h
  · simp only [jsonLayout, List.mem_cons, List.not_mem_nil, or_false] at h
    rcases h with rfl | rfl | rfl <;> decide
  · dsimp only at h
    split at h
    · exact isNumberChar_of_mem_positional (fun d => isNumberChar_of_mem_numeral) h
    · exact isNumberChar_of_mem_scientific (fun d => isNumberChar_of_mem_numeral) h

theorem isNumberChar_of_mem_chars {n : Number} {c : Char} (h : c ∈ n.chars) :
    isNumberChar c = true := by
  cases n with
  | integer i _ => exact isNumberChar_of_mem_integer h
  | float x hx =>
    cases x with
    | nan => simp [Binary64.isFinite] at hx
    | ofRank negative rank _ =>
      have hrank : rank ≠ infinityRank := by
        simp only [Binary64.isFinite, decide_eq_true_eq] at hx
        omega
      simp only [Number.chars, Layout.write, if_neg hrank, List.mem_append] at h
      rcases h with h | h
      · split at h
        · rw [List.mem_singleton.1 h]
          decide
        · simp at h
      · exact isNumberChar_of_mem_writeRank h

/-! ## Numbers as values -/

theorem isGap_of_isNumberChar {c : Char} (h : isNumberChar c = true) : isGap c = false := by
  rw [Bool.eq_false_iff]
  intro hgap
  simp only [isGap, Bool.or_eq_true, beq_iff_eq] at hgap
  rcases hgap with ((rfl | rfl) | rfl) | rfl <;> simp [isNumberChar, isDigit] at h

theorem skipGaps_cons {c : Char} {rest : List Char} (h : isGap c = false) :
    skipGaps (c :: rest) = c :: rest := by
  simp [skipGaps, h]

theorem skipGaps_append {gaps rest : List Char} (h : ∀ c ∈ gaps, isGap c = true) :
    skipGaps (gaps ++ rest) = skipGaps rest := List.dropWhile_append_of_pos h

/-- The number at the head of a text. -/
def readNumber : List Char → Reading
  | '-' :: rest => readNumeral true rest
  | text => readNumeral false text

theorem readNumber_of_ne {c : Char} (h : c ≠ '-') (rest : List Char) :
    readNumber (c :: rest) = readNumeral false (c :: rest) := by
  unfold readNumber
  split
  · rename_i e
    exact absurd (List.cons.inj e).1 h
  · rfl

theorem readNumber_append {s rest r : List Char} {n : Number} (hrest : EndsNumber rest)
    (h : readNumber s = (.number n, some r)) :
    readNumber (s ++ rest) = (.number n, some (r ++ rest)) := by
  cases s with
  | nil => simp [readNumber, readNumeral, Reading.cutNumeral] at h
  | cons c s =>
    by_cases hc : c = '-'
    · subst hc
      exact readNumeral_append hrest h
    · rw [readNumber_of_ne hc] at h
      rw [List.cons_append, readNumber_of_ne hc]
      exact readNumeral_append hrest h

theorem leaves_of_readNumber {s : List Char} {n : Number} {left : Option (List Char)}
    (h : readNumber s = (.number n, left)) : Leaves left s := by
  cases s with
  | nil => simp [readNumber, readNumeral, Reading.cutNumeral] at h
  | cons c s =>
    by_cases hc : c = '-'
    · subst hc
      exact (leaves_of_readNumeral h).trans (List.suffix_cons _ s)
    · rw [readNumber_of_ne hc] at h
      exact leaves_of_readNumeral h

/-- **A value that starts like a number** is a number just if one stands there. -/
theorem readValue_eq_number_iff {c : Char} (h : isNumberChar c = true) (fuel depth : Nat)
    {rest : List Char} {n : Number} {left : Option (List Char)} :
    readValue (fuel + 1) depth (c :: rest) = (.number n, left) ↔
      readNumber (c :: rest) = (.number n, left) := by
  have hne : ∀ d : Char, isNumberChar d = false → c ≠ d := fun d hd e => by
    rw [← e, h] at hd
    exact Bool.noConfusion hd
  simp only [readValue, skipGaps_cons (isGap_of_isNumberChar h), hne '"' (by decide),
    hne '[' (by decide), hne '\x7b' (by decide), hne 'n' (by decide), hne 't' (by decide),
    hne 'f' (by decide), if_false]
  by_cases hminus : c = '-'
  · subst hminus
    rfl
  · rw [if_neg hminus, readNumber_of_ne hminus]
    by_cases hdigit : isDigit c = true
    · rw [if_pos hdigit]
    · simp [hdigit, readNumeral, Reading.stop]

theorem Written.eq_number_of_value {w : Written} {n : Number} (h : w.value = .ok (.number n)) :
    w = .number n := by
  cases w with
  | number m =>
    simp only [Written.value, Except.ok.injEq, Value.number.injEq] at h
    rw [h]
  | list items stop =>
    cases hi : itemValues items <;> cases hp : proceed stop <;>
      simp [Written.value, hi, hp, bind, Except.bind, pure, Except.pure] at h
  | object members stop =>
    cases hi : memberValues members <;> cases hp : proceed stop <;>
      simp [Written.value, hi, hp, bind, Except.bind, pure, Except.pure] at h
  | _ => simp [Written.value] at h

/-- What a text has to be for a value to be read from it. -/
theorem readValue_of_ofText {text : List Char} {v : Value} (h : Value.ofText text = .ok v) :
    ∃ w rest, readValue (3 * text.length + 3) 0 text = (w, rest) ∧ w.value = .ok v ∧
      ∀ r, rest = some r → skipGaps r = [] := by
  obtain ⟨w, rest, hread⟩ : ∃ w rest, readValue (3 * text.length + 3) 0 text = (w, rest) :=
    ⟨_, _, rfl⟩
  refine ⟨w, rest, hread, ?_⟩
  cases hw : w.value with
  | error f => cases rest <;> simp [Value.ofText, Document.ofText, hread, hw, bind, Except.bind] at h
  | ok u =>
    cases rest with
    | none =>
      simp only [Value.ofText, Document.ofText, hread, hw, bind, Except.bind, proceed, pure,
        Except.pure, Except.ok.injEq] at h
      exact ⟨congrArg _ h, fun r hr => by cases hr⟩
    | some r =>
      simp only [Value.ofText, Document.ofText, hread, hw, bind, Except.bind, trailingFault] at h
      cases hr : skipGaps r with
      | nil =>
        simp only [hr, proceed, pure, Except.pure, Except.ok.injEq] at h
        exact ⟨congrArg _ h, fun r' hr' => by rw [← Option.some.inj hr', hr]⟩
      | cons c more => simp [hr, proceed] at h

/-- What suffices for a value to be read from a text. -/
theorem ofText_of_readValue {text rest : List Char} {w : Written} {v : Value}
    (hread : readValue (3 * text.length + 3) 0 text = (w, some rest)) (hvalue : w.value = .ok v)
    (hgaps : skipGaps rest = []) : Value.ofText text = .ok v := by
  simp only [Value.ofText, Document.ofText, hread, hvalue, trailingFault, hgaps, bind, Except.bind,
    proceed, pure, Except.pure]

/-! ## Numbers that are read back -/

/-- **The number is read from its own text.** -/
def Number.ReadsBack (n : Number) : Prop := Value.ofText n.chars = .ok (.number n)

/-- A number is read back just if its text is that numeral and nothing else. -/
theorem Number.readsBack_iff {n : Number} :
    n.ReadsBack ↔ readNumber n.chars = (.number n, some []) := by
  have hchars : ∀ c ∈ n.chars, isNumberChar c = true := fun c => isNumberChar_of_mem_chars
  constructor
  · intro h
    obtain ⟨w, left, hread, hvalue, hgaps⟩ := readValue_of_ofText h
    obtain rfl := Written.eq_number_of_value hvalue
    have hnumber : readNumber n.chars = (.number n, left) := by
      cases hcs : n.chars with
      | nil => simp [hcs, readValue, skipGaps, Reading.stop] at hread
      | cons c s =>
        rw [hcs] at hread hchars
        exact (readValue_eq_number_iff (hchars c List.mem_cons_self) _ _).1 hread
    -- what is left is made of gaps only, and a number has none
    obtain ⟨r, rfl, hsuffix⟩ := leaves_of_readNumber hnumber
    cases r with
    | nil => exact hnumber
    | cons c r =>
      have hc := isGap_of_isNumberChar (hchars c (hsuffix.mem List.mem_cons_self))
      have hnil := hgaps _ rfl
      rw [skipGaps_cons hc] at hnil
      exact absurd hnil (List.cons_ne_nil c r)
  · intro h
    cases hcs : n.chars with
    | nil => simp [hcs, readNumber, readNumeral, Reading.cutNumeral] at h
    | cons c s =>
      rw [hcs] at h hchars
      have hread := (readValue_eq_number_iff (hchars c List.mem_cons_self)
        (3 * (c :: s).length + 2) 0).2 h
      rw [Number.ReadsBack, hcs]
      exact ofText_of_readValue hread rfl rfl

/-- The reading is just a number. -/
def Reading.isNumber (n : Number) : Reading → Bool
  | (.number m, some []) => m = n
  | _ => false

theorem Reading.isNumber_iff {n : Number} {r : Reading} :
    r.isNumber n = true ↔ r = (.number n, some []) := by
  constructor
  · intro h
    unfold Reading.isNumber at h
    split at h
    · rw [of_decide_eq_true h]
    · exact Bool.noConfusion h
  · rintro rfl
    simp [Reading.isNumber]

instance (n : Number) : Decidable n.ReadsBack :=
  decidable_of_iff ((readNumber n.chars).isNumber n = true)
    (Reading.isNumber_iff.trans Number.readsBack_iff.symm)

/-! ## Integers -/

theorem le_ofDigitChars (digits : List Char) (m : Nat) : m ≤ Nat.ofDigitChars 10 digits m := by
  induction digits generalizing m with
  | nil => simp
  | cons c digits ih =>
    rw [Nat.ofDigitChars_cons]
    exact Nat.le_trans (by omega) (ih _)

theorem foldl_integerDigit (digits : List Char) (m : Nat)
    (h : Nat.ofDigitChars 10 digits m < UInt64.size) :
    digits.foldl (fun s c => s.integerDigit (digitValue c)) (Scaled.mk m 0) =
      ⟨Nat.ofDigitChars 10 digits m, 0⟩ := by
  induction digits generalizing m with
  | nil => simp
  | cons c digits ih =>
    rw [Nat.ofDigitChars_cons] at h ⊢
    have hfit : 10 * m + digitValue c < UInt64.size := Nat.lt_of_le_of_lt (le_ofDigitChars digits _) h
    have hstep : (Scaled.mk m 0).integerDigit (digitValue c) = ⟨10 * m + digitValue c, 0⟩ := by
      simp [Scaled.integerDigit, hfit]
    rw [List.foldl_cons, hstep]
    exact ih _ h

theorem ofDigits_numeral {n : Nat} (h : n < UInt64.size) :
    Scaled.ofDigits (numeral n) [] = ⟨n, 0⟩ := by
  have hvalue : Nat.ofDigitChars 10 (numeral n) 0 = n := digitsValue_numeral n
  rw [Scaled.ofDigits, foldl_integerDigit _ _ (by rwa [hvalue]), hvalue]
  rfl

theorem takeWhile_numeral (n : Nat) : (numeral n).takeWhile isDigit = numeral n :=
  List.takeWhile_eq_self_iff.2 fun _ h => isDigit_of_mem_numeral h

theorem dropWhile_numeral (n : Nat) : (numeral n).dropWhile isDigit = [] :=
  List.dropWhile_eq_nil_iff.2 fun _ h => isDigit_of_mem_numeral h

theorem readNumeral_numeral {n : Nat} (h : n < UInt64.size) (negative : Bool) :
    readNumeral negative (numeral n) = (.ofInteger negative n, some []) := by
  have hfraction : readFraction negative (numeral n) [] = (.ofInteger negative n, some []) := by
    simp [readFraction, readScale, ofDigits_numeral h]
  have hzero : n = 0 ∨ (numeral n).head? ≠ some '0' :=
    (Nat.eq_zero_or_pos n).imp_right head?_numeral_ne_zero
  cases hcs : numeral n with
  | nil => exact absurd hcs (numeral_ne_nil n)
  | cons c s =>
    have hdigit : isDigit c = true :=
      isDigit_of_mem_numeral (n := n) (by rw [hcs]; exact List.mem_cons_self)
    have hlead : (c = '0' && s.head?.any isDigit) = false := by
      rcases hzero with rfl | hne
      · obtain ⟨-, rfl⟩ := List.cons.inj hcs
        simp
      · have : c ≠ '0' := fun e => hne (by rw [hcs, e]; rfl)
        simp [this]
    rw [readNumeral, ← hcs, takeWhile_numeral, dropWhile_numeral, hfraction, hlead, hdigit]
    rfl

/-- **Every integer is read from its own text.** -/
theorem Number.readsBack_integer (i : Int)
    (h : -9223372036854775808 ≤ i ∧ i < 18446744073709551616) :
    (Number.integer i h).ReadsBack := by
  have hsize : UInt64.size = 18446744073709551616 := rfl
  have habs : i.natAbs < UInt64.size := by omega
  rw [Number.readsBack_iff]
  by_cases hneg : i < 0
  · have hwritten : Written.ofInteger true i.natAbs = .number (.integer i h) := by
      have hi : -(i.natAbs : Int) = i := by omega
      have hne : i.natAbs ≠ 0 := by omega
      simp only [Written.ofInteger, if_true, hi, h, hne, ne_eq, not_false_eq_true, imp_self, and_self,
        dite_true]
    simp only [Number.chars, Text.integer, if_pos hneg, readNumber]
    rw [readNumeral_numeral habs, hwritten]
  · have hwritten : Written.ofInteger false i.natAbs = .number (.integer i h) := by
      have hi : (i.natAbs : Int) = i := by omega
      simp only [Written.ofInteger, Bool.false_eq_true, if_false, hi, h, false_implies, and_self,
        dite_true]
    simp only [Number.chars, Text.integer, if_neg hneg]
    have hread := readNumeral_numeral habs false
    obtain ⟨c, s, hcs⟩ := List.exists_cons_of_ne_nil (numeral_ne_nil i.natAbs)
    have hdigit : isDigit c = true :=
      isDigit_of_mem_numeral (n := i.natAbs) (by rw [hcs]; exact List.mem_cons_self)
    have hminus : c ≠ '-' := fun e => by simp [e, isDigit] at hdigit
    rw [hcs, readNumber_of_ne hminus, ← hcs, hread, hwritten]

end CloudDiagram.Json

import CloudDiagram.Proofs.Json.Decimal

/-!
# Every number is read as a number

* `exists_readNumeral_writeRank`: the text of a magnitude is read as a significand and an exponent;
* **`exists_readNumber_float`**: which have a finite number, however close the magnitude is to the
  largest one;
* `Number.reread`, **`Number.readNumber_chars`**: the number that the text of a number is read as, and
  `Number.readsBack_iff_reread`;
* `readValue_number`: it is read wherever its text stands in a document.
-/

namespace CloudDiagram.Json

open Text

/-- **The decimal of a magnitude.** -/
def decimalOf (rank : Nat) : Decimal := if rank = 0 then ⟨0, 0⟩ else shortest .even rank

theorem writeRank_eq (rank : Nat) :
    jsonLayout.writeRank rank =
      let d := decimalOf rank
      let digits := numeral d.digits
      let top := d.exponent + digits.length - 1
      if jsonLayout.positional top then positionalDigits jsonLayout.wholeMark digits top
      else scientificDigits digits top := by
  unfold Layout.writeRank decimalOf
  split
  · rfl
  · rfl

variable {rank : Nat}

theorem decimalOf_eq_zero (h : (decimalOf rank).digits = 0) : (decimalOf rank).exponent = 0 := by
  obtain rfl | hpos := Nat.eq_zero_or_pos rank
  · rfl
  · rw [decimalOf, if_neg hpos.ne'] at h ⊢
    rw [shortest_eq_zero hpos h]

theorem value_decimalOf_le (rank : Nat) :
    (decimalOf rank).value ≤ (units rank + units (rank + 1) : Nat) / 2 ^ 1075 := by
  obtain rfl | hpos := Nat.eq_zero_or_pos rank
  · rw [decimalOf, if_pos rfl, Decimal.value, Nat.cast_zero, zero_mul]
    positivity
  · rw [decimalOf, if_neg hpos.ne']
    exact value_shortest_le .even rank

theorem natAbs_top_decimalOf_le (h : rank < infinityRank) :
    ((decimalOf rank).exponent + (numeral (decimalOf rank).digits).length - 1).natAbs ≤ 360 := by
  obtain rfl | hpos := Nat.eq_zero_or_pos rank
  · decide
  · rw [decimalOf, if_neg hpos.ne']
    exact natAbs_top_shortest_le .even hpos h

/-- **The text of a magnitude** is read as a significand and an exponent that stand for its
decimal. -/
theorem exists_readNumeral_writeRank (negative : Bool) (h : rank < infinityRank) :
    ∃ s, readNumeral negative (jsonLayout.writeRank rank) = .ofScaled negative s [] ∧
      s.Renders (decimalOf rank) := by
  rw [writeRank_eq]
  dsimp only
  split
  · rename_i htop
    have hle := (Bool.and_eq_true_iff.1 htop).2
    exact readNumeral_positional negative decimalOf_eq_zero rfl (of_decide_eq_true hle)
  · have hbound : 360 < twoTo 31 := by decide
    exact readNumeral_scientific negative rfl ((natAbs_top_decimalOf_le h).trans_lt hbound)

/-! ## Finite numbers -/

theorem pred_infinityRank_lt : infinityRank - 1 < infinityRank := by decide

theorem infinityRank_pos : 0 < infinityRank := by decide

theorem readNumeral_ends : ∀ negative : Bool,
    (readNumeral negative (jsonLayout.writeRank 0)).isNumber
      (.float (.ofRank negative 0 (Nat.zero_le _)) (decide_eq_true infinityRank_pos)) = true ∧
    (readNumeral negative (jsonLayout.writeRank (infinityRank - 1))).isNumber
      (.float (.ofRank negative (infinityRank - 1) (Nat.sub_le _ _))
        (decide_eq_true pred_infinityRank_lt)) = true := by
  decide +kernel

theorem ofScaled_eq_number {negative : Bool} {s : Scaled} {x : Binary64}
    (h : s.toBinary64? negative = some x) (hx : x.isFinite = true) :
    Reading.ofScaled negative s [] = (.number (.float x hx), some []) := by
  rw [Reading.ofScaled, h]
  dsimp only
  rw [Written.ofBinary64, dif_pos hx]

theorem exists_readNumeral (negative : Bool) (h : rank < infinityRank) :
    ∃ (x : Binary64) (hx : x.isFinite = true),
      readNumeral negative (jsonLayout.writeRank rank) = (.number (.float x hx), some []) := by
  obtain hlt | rfl := Nat.lt_or_eq_of_le (Nat.le_sub_one_of_lt h)
  · obtain ⟨s, hread, hrenders⟩ := exists_readNumeral_writeRank negative h
    have hmiddle : units rank + units (rank + 1) ≤ largestMiddle :=
      Nat.add_le_add (units_strictMono.monotone (Nat.le_sub_one_of_lt hlt))
        (units_strictMono.monotone hlt)
    have hvalue : s.value ≤ largestMiddle / 2 ^ 1075 := by
      refine (hrenders.value_le.trans (value_decimalOf_le rank)).trans ?_
      exact div_le_div_of_nonneg_right (by exact_mod_cast hmiddle) (by positivity)
    obtain ⟨x, hx, hfinite⟩ := exists_toBinary64? negative hrenders.significand_lt hvalue
    exact ⟨x, hfinite, hread.trans (ofScaled_eq_number hx hfinite)⟩
  · exact ⟨_, _, Reading.isNumber_iff.1 (readNumeral_ends negative).2⟩

theorem readNumber_of_readNumeral {text : List Char} {n : Number} {left : Option (List Char)}
    (h : readNumeral false text = (.number n, left)) : readNumber text = (.number n, left) := by
  unfold readNumber
  split
  · cases h
  · exact h

theorem readNumber_write {negative : Bool} (hlt : rank < infinityRank) {n : Number}
    (h : readNumeral negative (jsonLayout.writeRank rank) = (.number n, some [])) :
    readNumber (jsonLayout.write (.ofRank negative rank hlt.le)) = (.number n, some []) := by
  rw [Layout.write, if_neg hlt.ne]
  cases negative
  · exact readNumber_of_readNumeral h
  · exact h

theorem exists_readNumber_float {x : Binary64} (h : x.isFinite = true) :
    ∃ (y : Binary64) (hy : y.isFinite = true),
      readNumber (jsonLayout.write x) = (.number (.float y hy), some []) := by
  cases x with
  | nan => cases h
  | ofRank negative rank hle =>
    have hlt : rank < infinityRank := of_decide_eq_true h
    obtain ⟨y, hy, hread⟩ := exists_readNumeral negative hlt
    exact ⟨y, hy, readNumber_write hlt hread⟩

/-! ## Reading again -/

/-- **The number that the text of a number is read as.** -/
def Number.reread (n : Number) : Number :=
  match readNumber n.chars with
  | (.number m, _) => m
  | _ => n

/-- **Every number is read as a number** from its own text. -/
theorem Number.readNumber_chars (n : Number) : readNumber n.chars = (.number n.reread, some []) := by
  obtain ⟨m, hm⟩ : ∃ m, readNumber n.chars = (.number m, some []) := by
    cases n with
    | integer i h => exact ⟨_, Number.readsBack_iff.1 (Number.readsBack_integer i h)⟩
    | float x h =>
      obtain ⟨y, hy, hread⟩ := exists_readNumber_float h
      exact ⟨_, hread⟩
  rw [reread, hm]

theorem Number.readsBack_iff_reread {n : Number} : n.ReadsBack ↔ n.reread = n := by
  rw [Number.readsBack_iff, n.readNumber_chars, Prod.mk.injEq, Written.number.injEq,
    and_iff_left rfl]

theorem Number.exists_reread_float {x : Binary64} (h : x.isFinite = true) :
    ∃ (y : Binary64) (hy : y.isFinite = true), (Number.float x h).reread = .float y hy := by
  obtain ⟨y, hy, hread⟩ := exists_readNumber_float h
  have hchars := (Number.float x h).readNumber_chars
  rw [Number.chars, hread, Prod.mk.injEq, Written.number.injEq] at hchars
  exact ⟨y, hy, hchars.1.symm⟩

theorem Number.chars_ne_nil (n : Number) : n.chars ≠ [] := by
  intro hnil
  have hread := n.readNumber_chars
  simp [hnil, readNumber, readNumeral, Reading.cutNumeral] at hread

theorem readValue_number (n : Number) (fuel depth : Nat) {rest : List Char}
    (hrest : EndsNumber rest) :
    readValue (fuel + 1) depth (n.chars ++ rest) = (.number n.reread, some rest) := by
  have hread := readNumber_append hrest n.readNumber_chars
  obtain ⟨c, s, hcs⟩ := List.exists_cons_of_ne_nil n.chars_ne_nil
  have hc : isNumberChar c = true :=
    isNumberChar_of_mem_chars (n := n) (by rw [hcs]; exact List.mem_cons_self)
  rw [hcs] at hread ⊢
  exact (readValue_eq_number_iff hc fuel depth).2 hread

end CloudDiagram.Json

import CloudDiagram.Generation.Naming
import CloudDiagram.Proofs.Text.Decimal

/-!
# Identifiers of resources

* `isIdentifierChar_of_mem`: an identifier consists of letters, digits and underscores;
* **`terraformIdentifier_injective`**: resources with different numbers have different identifiers,
  whatever their kinds;
* `IsIdentifier`, **`terraformIdentifier_valid_distinct`**: the identifiers are valid, and those of
  different numbers differ.
-/

namespace CloudDiagram

open Text

theorem isIdentifierChar_identifierChar (c : Char) :
    (isAlphanumeric (identifierChar c) || identifierChar c == '_') = true := by
  unfold identifierChar
  split
  · assumption
  · rfl

theorem isIdentifierChar_of_mem_stem {kind : List Char} {c : Char} (h : c ∈ identifierStem kind) :
    (isAlphanumeric c || c == '_') = true := by
  have hmap : ∀ d ∈ kind.map identifierChar, (isAlphanumeric d || d == '_') = true :=
    List.forall_mem_map.2 fun d _ => isIdentifierChar_identifierChar d
  unfold identifierStem at h
  split at h
  · have hall : ("component".toList.all fun d => isAlphanumeric d || d == '_') = true := by decide
    exact List.all_eq_true.1 hall c h
  · rename_i first rest heq
    rw [heq] at hmap
    split at h
    · rcases List.mem_cons.1 h with rfl | h
      · rfl
      · exact hmap c h
    · exact hmap c h

theorem isAlphanumeric_of_isDigit {c : Char} (h : isDigit c = true) : isAlphanumeric c = true := by
  simp [isAlphanumeric, h]

theorem isIdentifierChar_of_mem {kind : String} {index : Nat} {c : Char}
    (h : c ∈ (terraformIdentifier kind index).toList) : (isAlphanumeric c || c == '_') = true := by
  rw [terraformIdentifier, String.toList_ofList, List.mem_append, List.mem_cons] at h
  obtain h | rfl | h := h
  · exact isIdentifierChar_of_mem_stem h
  · rfl
  · rw [isAlphanumeric_of_isDigit (isDigit_of_mem_numeral h), Bool.true_or]

/-- What follows the last underscore. -/
def afterUnderscore (s : List Char) : List Char := (s.reverse.takeWhile (· != '_')).reverse

theorem afterUnderscore_append {s t : List Char} (h : ∀ c ∈ t, c ≠ '_') :
    afterUnderscore (s ++ '_' :: t) = t := by
  have hall : ∀ c ∈ t.reverse, (c != '_') = true := fun c hc =>
    bne_iff_ne.2 (h c (List.mem_reverse.1 hc))
  have hlist : (s ++ '_' :: t).reverse = t.reverse ++ '_' :: s.reverse := by simp
  rw [afterUnderscore, hlist, List.takeWhile_append_of_pos hall]
  simp

/-- **Resources with different numbers have different identifiers**, whatever their kinds. -/
theorem terraformIdentifier_injective {kind kind' : String} {i j : Nat}
    (h : terraformIdentifier kind i = terraformIdentifier kind' j) : i = j := by
  have hdigits : ∀ n, ∀ c ∈ numeral n, c ≠ '_' := by
    rintro n c hc rfl
    exact absurd (isDigit_of_mem_numeral hc) (by decide)
  have hlist := String.ofList_injective h
  have hafter := congrArg afterUnderscore hlist
  rw [afterUnderscore_append (hdigits i), afterUnderscore_append (hdigits j)] at hafter
  exact numeral_injective hafter

/-! ## Valid identifiers -/

/-- **A valid identifier**: letters, digits and underscores, of which the first is not a digit. -/
structure IsIdentifier (l : List Char) : Prop where
  nonempty : l ≠ []
  chars : ∀ c ∈ l, isAlphanumeric c = true ∨ c = '_'
  first : ∀ c ∈ l.head?, isDigit c = false

theorem exists_identifierStem_eq_cons (kind : List Char) :
    ∃ c rest, identifierStem kind = c :: rest ∧ isDigit c = false := by
  unfold identifierStem
  split
  · exact ⟨_, _, rfl, rfl⟩
  · split
    · exact ⟨_, _, rfl, rfl⟩
    · rename_i c rest _ hdigit
      exact ⟨c, rest, rfl, Bool.eq_false_iff.2 hdigit⟩

theorem isIdentifier_terraformIdentifier (kind : String) (index : Nat) :
    IsIdentifier (terraformIdentifier kind index).toList := by
  obtain ⟨c, rest, hstem, hdigit⟩ := exists_identifierStem_eq_cons kind.toList
  have hlist : (terraformIdentifier kind index).toList = c :: (rest ++ '_' :: numeral index) := by
    rw [terraformIdentifier, String.toList_ofList, hstem, List.cons_append]
  refine ⟨?_, fun d hd => ?_, ?_⟩
  · rw [hlist]
    exact List.cons_ne_nil _ _
  · have hchar := isIdentifierChar_of_mem hd
    rwa [Bool.or_eq_true, beq_iff_eq] at hchar
  · rw [hlist]
    exact fun d hd => Option.some.inj hd ▸ hdigit

/-- **Identifiers are valid and never collide**: resources with different numbers have different ones,
be their kinds equal, different, or equal only after the other characters became underscores. -/
theorem terraformIdentifier_valid_distinct (kind : String) (i : Nat) :
    IsIdentifier (terraformIdentifier kind i).toList ∧
      ∀ (kind' : String) (j : Nat), i ≠ j →
        terraformIdentifier kind i ≠ terraformIdentifier kind' j :=
  ⟨isIdentifier_terraformIdentifier kind i, fun _ _ hne heq => hne (terraformIdentifier_injective heq)⟩

/-- A kind that ends like a number, beside the kind without that ending. -/
theorem terraformIdentifier_valid_distinct_numbered :
    1 ≠ 11 ∧ terraformIdentifier "a_1" 1 ≠ terraformIdentifier "a" 11 ∧
      terraformIdentifier "a_1" 1 = "a_1_1" ∧ terraformIdentifier "a" 11 = "a_11" := by
  have hne : 1 ≠ 11 := by decide
  exact ⟨hne, (terraformIdentifier_valid_distinct "a_1" 1).2 "a" 11 hne, by decide, by decide⟩

end CloudDiagram

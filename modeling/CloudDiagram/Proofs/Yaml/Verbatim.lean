import CloudDiagram.Proofs.Yaml.Block

/-!
# Scalars that stand for a text

What a scalar that is written for a text looks like, and how a line with it at its end is read.

* `Yaml.PlainString`: a text that is a string without quotes;
* `Yaml.QuotedString`: a text between double quotes that stands for another one;
* **`yamlScalar_reads_back`**: beside any key, a reader gets the text back from the scalar that was
  written for it, whichever of the two it is.
-/

namespace CloudDiagram.Yaml

open Text

/-- **A string without quotes**: nothing in it starts anything else, and it has the form of nothing
else, in version 1.1 or in version 1.2. -/
structure PlainString (s : String) : Prop where
  start : ∃ c rest, s.toList = c :: rest ∧ isIndicator c = false ∧ c ∉ ['-', '?', ':']
  noKey : ¬ [':', ' '] <:+: s.toList
  noComment : ¬ [' ', '#'] <:+: s.toList
  noBlankBefore : ∀ c ∈ s.toList.head?, isBlank c = false
  noBlankAfter : ∀ c ∈ s.toList.getLast?, isBlank c = false
  noWord : toAsciiLower s ∉ Yaml.nullWords ++ boolWords
  noForm : ∀ p ∈ Pattern.integers ++ Pattern.floats ++ Pattern.timestamps, s.toList ∉ p.matches'
  tag : implicitTag s = .string

/-- **A string between double quotes**: up to the closing quote, the escapes are read as the text. -/
def QuotedString (s written : String) : Prop :=
  ∃ body, written.toList = '"' :: (body ++ ['"']) ∧
    ∀ rest, readQuoted .text (body ++ '"' :: rest) = some (s.toList, rest)

/-! ## The two ways to write a text -/

variable {s : String}

theorem StandsForItself.not_part (h : StandsForItself s) {part : List Char}
    (hpart : part.all isPlainChar = false) : ¬ part <:+: s.toList := by
  intro hmem
  have hall : part.all isPlainChar = true :=
    List.all_eq_true.2 fun c hc => h.chars c (hmem.subset hc)
  rw [hall] at hpart
  cases hpart

theorem StandsForItself.plainString (h : StandsForItself s) : PlainString s := by
  obtain ⟨c, rest, hs, hnumber⟩ := h.first
  have hplain : isPlainChar c = true := h.chars c (by rw [hs]; exact List.mem_cons_self)
  have hminus : c ≠ '-' := by
    rintro rfl
    exact absurd hnumber (by decide)
  have hstart : c ∉ ['-', '?', ':'] := by
    simp only [List.mem_cons, List.not_mem_nil, or_false, not_or]
    exact ⟨hminus, ne_of_isPlainChar hplain (by decide), ne_of_isPlainChar hplain (by decide)⟩
  refine ⟨⟨c, rest, hs, isIndicator_of_isPlainChar hplain, hstart⟩, h.not_part (by decide),
    h.not_part (by decide), h.isBlank_of_head?, h.isBlank_of_getLast?, h.notMem_words, ?_,
    h.implicitTag_eq⟩
  intro p hp hmatch
  rw [← RegularExpression.rmatch_iff_matches', hs,
    rmatch_eq_false (not_mem_numberStarts hnumber) hp] at hmatch
  cases hmatch

/-- **A text is written as it is or between double quotes.** -/
theorem plainString_or_quotedString (s : String) :
    yamlScalar s = s ∧ PlainString s ∨ QuotedString s (yamlScalar s) := by
  unfold yamlScalar
  split
  · rename_i hplain
    exact .inl ⟨rfl, (standsForItself_of_isPlainScalar hplain).plainString⟩
  · exact .inr ⟨s.toList.flatMap yamlChar, String.toList_ofList, readQuoted_flatMap s.toList⟩

/-! ## A line with a key -/

theorem readLine_indentation (n column : Nat) (line : List Char) :
    readLine column (List.replicate n ' ' ++ line) = readLine (column + n) line := by
  induction n generalizing column with
  | zero => rfl
  | succ n ih =>
    have hspace : readLine column (List.replicate (n + 1) ' ' ++ line) =
        readLine (column + 1) (List.replicate n ' ' ++ line) := rfl
    rw [hspace, ih, Nat.add_right_comm, Nat.add_assoc]

theorem ne_of_isKeyChar {c d : Char} (hc : isKeyChar c = true) (hd : isKeyChar d = false) :
    c ≠ d := by
  rintro rfl
  rw [hc] at hd
  cases hd

theorem splitKey_append {key : List Char} (hkey : ∀ c ∈ key, isKeyChar c = true)
    (value : List Char) : splitKey (key ++ ':' :: ' ' :: value) = some (key, ' ' :: value) := by
  induction key with
  | nil => rfl
  | cons c key ih =>
    obtain ⟨hc, hkey⟩ := List.forall_mem_cons.1 hkey
    have hcolon : c ≠ ':' := ne_of_isKeyChar hc (by decide)
    simp only [List.cons_append, splitKey, beq_false_of_ne hcolon, hc, ih hkey, Bool.false_and,
      Bool.false_eq_true, if_false, if_true, Option.map_some]

theorem readLine_key {key value : List Char} {scalar : Scalar} (hne : key ≠ [])
    (hkey : ∀ c ∈ key, isKeyChar c = true) (hvalue : readScalar value = some scalar) (n : Nat) :
    readLine 0 (List.replicate n ' ' ++ (key ++ ':' :: ' ' :: value)) =
      some [(n, .key (String.ofList key) (some scalar))] := by
  rw [readLine_indentation, Nat.zero_add]
  have hread : readKey n (key ++ ':' :: ' ' :: value) =
      some [(n, .key (String.ofList key) (some scalar))] := by
    simp only [readKey, splitKey_append hkey, readValue_of_readScalar hvalue, Option.bind_eq_bind,
      Option.bind_some, Option.map_some]
  obtain ⟨c, key, rfl⟩ := List.exists_cons_of_ne_nil hne
  have hc := hkey c List.mem_cons_self
  -- what follows a hyphen at the start is a character of the key or the colon
  have hitem : (key ++ ':' :: ' ' :: value).head?.all (· == ' ') = false := by
    cases key with
    | nil => rfl
    | cons d key =>
      have hd := hkey d (List.mem_cons_of_mem _ List.mem_cons_self)
      exact beq_false_of_ne (ne_of_isKeyChar hd (by decide))
  have hspace : c ≠ ' ' := ne_of_isKeyChar hc (by decide)
  have hcomment : c ≠ '#' := ne_of_isKeyChar hc (by decide)
  rw [List.cons_append] at hread ⊢
  simp only [readLine, beq_false_of_ne hspace, beq_false_of_ne hcomment, hitem, Bool.and_false,
    Bool.false_eq_true, if_false, hread]

/-! ## The text is read back -/

/-- **A reader gets the exact text back.** Whatever the text, the scalar that is written for it stays
on its line and is read, alone or beside a key, as that text and as a string. It is written as it is
only where it can be taken for nothing else; otherwise its escapes stand for it. -/
theorem yamlScalar_reads_back (s : String) (key : List Char) (hne : key ≠ [])
    (hkey : ∀ c ∈ key, isKeyChar c = true) (indentation : Nat) :
    OnOneLine (yamlScalar s) ∧
      readScalar (yamlScalar s).toList = some (.string s) ∧
      readLine 0 (List.replicate indentation ' ' ++ (key ++ ':' :: ' ' :: (yamlScalar s).toList)) =
        some [(indentation, .key (String.ofList key) (some (.string s)))] ∧
      (yamlScalar s = s ∧ PlainString s ∨ QuotedString s (yamlScalar s)) :=
  ⟨onOneLine_yamlScalar s, readScalar_yamlScalar s, readLine_key hne hkey (readScalar_yamlScalar s) _,
    plainString_or_quotedString s⟩

/-- A text that looks like a number before a comment, beside the key of a name. -/
theorem yamlScalar_reads_back_number :
    readLine 0 ("  name: ".toList ++ (yamlScalar "1e5 # x\n").toList) =
      some [(2, .key "name" (some (.string "1e5 # x\n")))] :=
  have hkey : ∀ c ∈ "name".toList, isKeyChar c = true := List.all_eq_true.1 rfl
  (yamlScalar_reads_back "1e5 # x\n" "name".toList (by decide) hkey 2).2.2.1

end CloudDiagram.Yaml

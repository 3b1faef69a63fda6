import CloudDiagram.Generation.Naming
import CloudDiagram.Proofs.Json.Quoted
import CloudDiagram.Proofs.Text.Trim
import CloudDiagram.Proofs.Yaml.Implicit

/-!
# Reading scalars

A reader of the scalar on the rest of a line, plain or between double quotes.

* `Yaml.Scalar`: a text and its type;
* `Yaml.Inside`, `Yaml.readQuoted`: the reader between double quotes, one character at a time;
* `Yaml.readScalar`: the scalar on the rest of a line;
* **`readScalar_yamlScalar`**: a scalar that was written for a text is read as that text, a string;
* `onOneLine_yamlScalar`, `onOneLine_commentText`: no text ends its line.
-/

namespace CloudDiagram.Yaml

open Text

/-- **A scalar**: its text and what it is taken for. -/
structure Scalar where
  tag : Tag
  text : String
  deriving DecidableEq

/-- A string. -/
def Scalar.string (text : String) : Scalar := ⟨.string, text⟩

/-- What a text without quotes is taken for. -/
def Scalar.plain (text : String) : Scalar := ⟨implicitTag text, text⟩

/-- The end of a line. -/
def isBreak (c : Char) : Bool :=
  c == '\n' || c == '\r' || c == '\u0085' || c == '\u2028' || c == '\u2029'

/-- White space on a line. -/
def isSpace (c : Char) : Bool := c == ' ' || c == '\t'

/-! ## Between double quotes -/

/-- What the reader is in the middle of between double quotes: in an escape by number, how many
digits are missing and the value of those before. -/
inductive Inside
  | text
  | escape
  | code (missing value : Nat)

/-- The character that a short escape stands for. -/
def escaped? : Char → Option Char
  | '0' => some '\x00'
  | 'a' => some '\x07'
  | 'b' => some '\x08'
  | 't' => some '\t'
  | '\t' => some '\t'
  | 'n' => some '\n'
  | 'v' => some '\x0b'
  | 'f' => some '\x0c'
  | 'r' => some '\r'
  | 'e' => some '\x1b'
  | ' ' => some ' '
  | '"' => some '"'
  | '/' => some '/'
  | '\\' => some '\\'
  | 'N' => some '\u0085'
  | '_' => some '\u00a0'
  | 'L' => some '\u2028'
  | 'P' => some '\u2029'
  | _ => none

/-- How many digits an escape by number has. -/
def codeLength? : Char → Option Nat
  | 'x' => some 2
  | 'u' => some 4
  | 'U' => some 8
  | _ => none

/-- One more hexadecimal digit of an escape by number; after the last one, its character. -/
def codeStep (missing value : Nat) (c : Char) : Option (Inside × List Char) := do
  let digit ← Json.hexValue? c
  let n := 16 * value + digit
  if missing ≤ 1 then
    if n.isValidChar then return (.text, [Char.ofNat n]) else none
  else return (.code (missing - 1) n, [])

/-- **One character**, and what it adds to the text. A scalar does not go on past its line, and no
control but the tabulator stands in it as it is. -/
def Inside.step : Inside → Char → Option (Inside × List Char)
  | text, c =>
    if c = '\\' then some (escape, [])
    else if isBreak c || (c.toNat < 0x20 && c != '\t') then none
    else some (text, [c])
  | escape, c =>
    match codeLength? c with
    | some digits => some (code digits 0, [])
    | none => (escaped? c).map fun d => (text, [d])
  | code missing value, c => codeStep missing value c

/-- The character closes the scalar. -/
def Inside.closes : Inside → Char → Bool
  | text, c => c == '"'
  | _, _ => false

/-- **The text up to the closing quote**, and what follows it. -/
def readQuoted : Inside → List Char → Option (List Char × List Char)
  | _, [] => none
  | s, c :: rest =>
    if s.closes c then some ([], rest)
    else do
      let (next, read) ← s.step c
      let (text, left) ← readQuoted next rest
      return (read ++ text, left)

/-! ## The rest of a line -/

/-- A character that starts something other than a plain scalar. -/
def isIndicator (c : Char) : Bool :=
  [',', '[', ']', '\x7b', '\x7d', '#', '&', '*', '!', '|', '>', '\x27', '"', '%', '@', '\x60'].contains c

/-- A plain scalar can start here. -/
def startsPlain : List Char → Bool
  | [] => false
  | c :: rest =>
    if c == '-' || c == '?' || c == ':' then rest.head?.any (!isSpace ·)
    else !isIndicator c && !isSpace c

/-- The characters up to a comment; none where a key stands on the rest of the line. -/
def plainChars : List Char → Option (List Char)
  | [] => some []
  | c :: rest =>
    if isSpace c && rest.head? == some '#' then some []
    else if isBreak c || (c == ':' && rest.head?.all isSpace) then none
    else (plainChars rest).map (c :: ·)

/-- The text without the white space at its end. -/
def trimSpaces (s : List Char) : List Char := (s.reverse.dropWhile isSpace).reverse

/-- Nothing but white space, and a comment after some. -/
def endsLine (s : List Char) : Bool :=
  match s.dropWhile isSpace with
  | [] => true
  | c :: _ => c == '#' && s.head?.any isSpace

/-- **The scalar on the rest of a line.** -/
def readScalar : List Char → Option Scalar
  | '"' :: rest => do
    let (text, left) ← readQuoted .text rest
    if endsLine left then some (.string (String.ofList text)) else none
  | text =>
    if startsPlain text then
      (plainChars text).map fun s => .plain (String.ofList (trimSpaces s))
    else none

/-! ## Quoted scalars -/

variable {rest text left : List Char}

theorem readQuoted_cons {s next : Inside} {c : Char} {read : List Char} (hopen : s.closes c = false)
    (hstep : s.step c = some (next, read)) (h : readQuoted next rest = some (text, left)) :
    readQuoted s (c :: rest) = some (read ++ text, left) := by
  simp only [readQuoted, hopen, hstep, h, Bool.false_eq_true, if_false, Option.bind_eq_bind,
    Option.bind_some, Option.pure_def]

theorem readQuoted_escape {c d : Char} (hcode : codeLength? c = none) (hescape : escaped? c = some d)
    (h : readQuoted .text rest = some (text, left)) :
    readQuoted .text ('\\' :: c :: rest) = some (d :: text, left) := by
  have hstep : Inside.escape.step c = some (.text, [d]) := by
    simp only [Inside.step, hcode, hescape, Option.map_some]
  have hbackslash : Inside.text.step '\\' = some (.escape, []) := rfl
  exact readQuoted_cons rfl hbackslash (readQuoted_cons rfl hstep h)

theorem readQuoted_digit {missing value digit : Nat} {c : Char}
    (hdigit : Json.hexValue? c = some digit)
    (h : readQuoted (.code (missing + 1) (16 * value + digit)) rest = some (text, left)) :
    readQuoted (.code (missing + 2) value) (c :: rest) = some (text, left) := by
  have hstep : (Inside.code (missing + 2) value).step c =
      some (.code (missing + 1) (16 * value + digit), []) := by
    simp [Inside.step, codeStep, hdigit]
  exact readQuoted_cons rfl hstep h

theorem readQuoted_lastDigit {value digit : Nat} {c : Char}
    (hdigit : Json.hexValue? c = some digit) (hvalid : (16 * value + digit).isValidChar)
    (h : readQuoted .text rest = some (text, left)) :
    readQuoted (.code 1 value) (c :: rest) = some (Char.ofNat (16 * value + digit) :: text, left) := by
  have hstep : (Inside.code 1 value).step c = some (.text, [Char.ofNat (16 * value + digit)]) := by
    simp [Inside.step, codeStep, hdigit, hvalid]
  exact readQuoted_cons rfl hstep h

theorem readQuoted_code {a b c d : Nat} (ha : a < 16) (hb : b < 16) (hc : c < 16) (hd : d < 16)
    (hvalid : (16 * (16 * (16 * (16 * 0 + a) + b) + c) + d).isValidChar)
    (h : readQuoted .text rest = some (text, left)) :
    readQuoted .text ('\\' :: 'u' :: a.digitChar :: b.digitChar :: c.digitChar :: d.digitChar :: rest) =
      some (Char.ofNat (16 * (16 * (16 * (16 * 0 + a) + b) + c) + d) :: text, left) := by
  have hdigits := readQuoted_digit (Json.hexValue?_digitChar ha) <|
    readQuoted_digit (Json.hexValue?_digitChar hb) <|
    readQuoted_digit (Json.hexValue?_digitChar hc) <|
    readQuoted_lastDigit (Json.hexValue?_digitChar hd) hvalid h
  have hbackslash : Inside.text.step '\\' = some (.escape, []) := rfl
  have hcode : Inside.escape.step 'u' = some (.code 4 0, []) := rfl
  exact readQuoted_cons rfl hbackslash (readQuoted_cons rfl hcode hdigits)

theorem readQuoted_self {c : Char} (hquote : c ≠ '"') (hbackslash : c ≠ '\\')
    (hbreak : isBreak c = false) (hcontrol : 0x20 ≤ c.toNat)
    (h : readQuoted .text rest = some (text, left)) :
    readQuoted .text (c :: rest) = some (c :: text, left) := by
  have hstep : Inside.text.step c = some (.text, [c]) := by
    simp only [Inside.step, hbackslash, hbreak, Nat.not_lt.2 hcontrol, decide_false, if_false,
      Bool.false_and, Bool.or_self, Bool.false_eq_true]
  have hopen : Inside.text.closes c = false := beq_false_of_ne hquote
  exact readQuoted_cons hopen hstep h

theorem readQuoted_yamlChar (c : Char) (h : readQuoted .text rest = some (text, left)) :
    readQuoted .text (yamlChar c ++ rest) = some (c :: text, left) := by
  unfold yamlChar
  split
  -- the breaks that are no controls
  · exact readQuoted_code (a := 0) (b := 0) (c := 8) (d := 5) (by decide) (by decide) (by decide)
      (by decide) (by decide) h
  · exact readQuoted_code (a := 2) (b := 0) (c := 2) (d := 8) (by decide) (by decide) (by decide)
      (by decide) (by decide) h
  · exact readQuoted_code (a := 2) (b := 0) (c := 2) (d := 9) (by decide) (by decide) (by decide)
      (by decide) (by decide) h
  · rename_i hnel hls hps
    unfold Json.escapeChar
    split
    · exact readQuoted_escape rfl rfl h
    · exact readQuoted_escape rfl rfl h
    · exact readQuoted_escape rfl rfl h
    · exact readQuoted_escape rfl rfl h
    · exact readQuoted_escape rfl rfl h
    · exact readQuoted_escape rfl rfl h
    · exact readQuoted_escape rfl rfl h
    · rename_i hquote hbackslash _ _ hfeed hreturn _
      split
      · rename_i hlow
        have hread := readQuoted_code (a := 0) (b := 0) (c := c.toNat / 16) (d := c.toNat % 16)
          (by decide) (by decide) (by omega) (by omega) (by left; omega) h
        have hvalue : 16 * (16 * (16 * (16 * 0 + 0) + 0) + c.toNat / 16) + c.toNat % 16 = c.toNat := by
          omega
        rw [hvalue, Char.ofNat_toNat] at hread
        exact hread
      · rename_i hhigh
        refine readQuoted_self hquote hbackslash ?_ (Nat.not_lt.1 hhigh) h
        simp only [isBreak, Bool.or_eq_false_iff, beq_eq_false_iff_ne]
        exact ⟨⟨⟨⟨hfeed, hreturn⟩, hnel⟩, hls⟩, hps⟩

/-- **A quoted scalar is read up to its closing quote.** -/
theorem readQuoted_flatMap (s rest : List Char) :
    readQuoted .text (s.flatMap yamlChar ++ '"' :: rest) = some (s, rest) := by
  induction s with
  | nil => rfl
  | cons c s ih =>
    rw [List.flatMap_cons, List.append_assoc]
    exact readQuoted_yamlChar c ih

/-! ## Plain scalars -/

theorem plainChars_eq {s : List Char}
    (h : ∀ c ∈ s, isBreak c = false ∧ c ≠ '#' ∧ c ≠ ':') : plainChars s = some s := by
  induction s with
  | nil => rfl
  | cons c rest ih =>
    obtain ⟨⟨hbreak, -, hcolon⟩, hrest⟩ := List.forall_mem_cons.1 h
    have hcomment : (rest.head? == some '#') = false := by
      cases rest with
      | nil => rfl
      | cons d rest => exact beq_false_of_ne fun heq =>
          (hrest d List.mem_cons_self).2.1 (Option.some.inj heq)
    simp only [plainChars, hbreak, hcomment, beq_false_of_ne hcolon, Bool.and_false, Bool.false_and,
      Bool.or_self, Bool.false_eq_true, if_false, ih hrest, Option.map_some]

theorem trimSpaces_eq {s : List Char} (h : ∀ c ∈ s.getLast?, isSpace c = false) :
    trimSpaces s = s := by
  rw [← List.head?_reverse] at h
  unfold trimSpaces
  cases hs : s.reverse with
  | nil => rw [List.dropWhile_nil, ← hs, List.reverse_reverse]
  | cons c rest =>
    rw [hs] at h
    rw [List.dropWhile_cons_of_neg (by rw [h c rfl]; exact Bool.false_ne_true), ← hs,
      List.reverse_reverse]

theorem ne_of_isPlainChar {c d : Char} (hc : isPlainChar c = true) (hd : isPlainChar d = false) :
    c ≠ d := by
  rintro rfl
  rw [hc] at hd
  cases hd

theorem isBreak_of_isPlainChar {c : Char} (h : isPlainChar c = true) : isBreak c = false := by
  have hne := fun d => ne_of_isPlainChar (d := d) h
  simp only [isBreak, Bool.or_eq_false_iff, beq_eq_false_iff_ne]
  exact ⟨⟨⟨⟨hne _ (by decide), hne _ (by decide)⟩, hne _ (by decide)⟩, hne _ (by decide)⟩,
    hne _ (by decide)⟩

/-- **A text of plain characters is read as it is** where it starts and ends as a scalar can. -/
theorem readScalar_of_isPlainChar {s : String} (hchars : ∀ c ∈ s.toList, isPlainChar c = true)
    (hstart : startsPlain s.toList = true) (hend : ∀ c ∈ s.toList.getLast?, isSpace c = false) :
    readScalar s.toList = some (.plain s) := by
  have hplain : plainChars s.toList = some s.toList := plainChars_eq fun c hc => by
    have hne := fun d => ne_of_isPlainChar (d := d) (hchars c hc)
    exact ⟨isBreak_of_isPlainChar (hchars c hc), hne '#' (by decide), hne ':' (by decide)⟩
  unfold readScalar
  split
  · rename_i heq
    have hquote := hchars '"' (by rw [heq]; exact List.mem_cons_self)
    exact absurd hquote (by decide)
  · rw [if_pos hstart, hplain, Option.map_some, trimSpaces_eq hend, String.ofList_toList]

/-! ## Scalars that are written for a text -/

theorem isIndicator_of_isPlainChar {c : Char} (h : isPlainChar c = true) : isIndicator c = false := by
  rw [isIndicator, List.contains_eq_mem, decide_eq_false_iff_not]
  intro hmem
  have hall : [',', '[', ']', '\x7b', '\x7d', '#', '&', '*', '!', '|', '>', '\x27', '"', '%', '@',
      '\x60'].all (fun d => !isPlainChar d) = true := rfl
  have hnot := List.all_eq_true.1 hall c hmem
  rw [h] at hnot
  cases hnot

theorem startsPlain_of_isPlainChar {c : Char} (rest : List Char) (hplain : isPlainChar c = true)
    (hminus : c ≠ '-') (hspace : isSpace c = false) : startsPlain (c :: rest) = true := by
  have hne := fun d => ne_of_isPlainChar (d := d) hplain
  simp only [startsPlain, beq_false_of_ne hminus, beq_false_of_ne (hne '?' (by decide)),
    beq_false_of_ne (hne ':' (by decide)), isIndicator_of_isPlainChar hplain, hspace, Bool.or_self,
    Bool.not_false,
    Bool.and_self, Bool.false_eq_true, if_false]

theorem isSpace_of_isBlank {c : Char} (h : isBlank c = false) : isSpace c = false := by
  have hne : ∀ d, isBlank d = true → c ≠ d := by
    rintro d hd rfl
    rw [h] at hd
    cases hd
  simp only [isSpace, beq_false_of_ne (hne ' ' rfl), beq_false_of_ne (hne '\t' rfl), Bool.or_self]

theorem not_mem_numberStarts {c : Char} (h : startsNumber c = false) :
    c ∉ Pattern.numberStarts := by
  have hall : Pattern.numberStarts.all startsNumber = true := rfl
  intro hmem
  rw [List.all_eq_true.1 hall c hmem] at h
  cases h

/-- **What is known of a text that stands for itself.** -/
structure StandsForItself (s : String) : Prop where
  chars : ∀ c ∈ s.toList, isPlainChar c = true
  first : ∃ c rest, s.toList = c :: rest ∧ startsNumber c = false
  trimmed : trimChars s.toList = s.toList
  unreserved : toAsciiLower s ∉ reservedWords

theorem standsForItself_of_isPlainScalar {s : String} (h : isPlainScalar s = true) :
    StandsForItself s := by
  simp only [isPlainScalar, Bool.and_eq_true, Bool.not_eq_true', beq_iff_eq, List.all_eq_true,
    List.contains_eq_mem, decide_eq_false_iff_not] at h
  obtain ⟨⟨⟨⟨⟨hempty, htrim⟩, hchars⟩, hnumber⟩, hreserved⟩, -⟩ := h
  obtain ⟨c, rest, hs⟩ := List.exists_cons_of_ne_nil (l := s.toList) fun hnil => by
    rw [String.toList_eq_nil_iff.1 hnil] at hempty
    cases hempty
  have htrimmed : trimChars s.toList = s.toList := by
    rw [← String.toList_ofList (l := trimChars s.toList)]
    exact congrArg String.toList htrim
  rw [hs] at hnumber
  exact ⟨hchars, ⟨c, rest, hs, hnumber⟩, htrimmed, hreserved⟩

namespace StandsForItself

variable {s : String}

/-- The reserved words are all words that a text of plain characters could be. -/
theorem notMem_words (h : StandsForItself s) : toAsciiLower s ∉ Yaml.nullWords ++ boolWords := by
  intro hword
  have hsubset : Yaml.nullWords ++ boolWords ⊆ "" :: reservedWords := by decide
  rcases List.mem_cons.1 (hsubset hword) with hempty | hmem
  · obtain ⟨c, rest, hs, -⟩ := h.first
    have hlength := congrArg (fun t : String => t.toList.length) hempty
    simp [toAsciiLower, hs] at hlength
  · exact h.unreserved hmem

theorem implicitTag_eq (h : StandsForItself s) : implicitTag s = .string := by
  obtain ⟨c, rest, hs, hnumber⟩ := h.first
  refine implicitTag_eq_string hs (not_mem_numberStarts hnumber) h.notMem_words fun hkey => ?_
  have hall : ∀ t ∈ ["<<", "="], t.toList.all isPlainChar = false := by decide
  have hchars := h.chars
  rw [← List.all_eq_true, hall s hkey] at hchars
  cases hchars

theorem isBlank_of_head? (h : StandsForItself s) : ∀ c ∈ s.toList.head?, isBlank c = false :=
  isBlank_of_head?_trimChars h.trimmed

theorem isBlank_of_getLast? (h : StandsForItself s) : ∀ c ∈ s.toList.getLast?, isBlank c = false :=
  isBlank_of_getLast?_trimChars h.trimmed

theorem startsPlain (h : StandsForItself s) : startsPlain s.toList = true := by
  obtain ⟨c, rest, hs, hnumber⟩ := h.first
  have hspace := isSpace_of_isBlank (h.isBlank_of_head? c (by rw [hs]; rfl))
  have hminus : c ≠ '-' := by
    rintro rfl
    exact absurd hnumber (by decide)
  rw [hs]
  exact startsPlain_of_isPlainChar rest (h.chars c (by rw [hs]; exact List.mem_cons_self)) hminus
    hspace

end StandsForItself

theorem readScalar_of_isPlainScalar {s : String} (h : isPlainScalar s = true) :
    readScalar s.toList = some (.string s) := by
  have hself := standsForItself_of_isPlainScalar h
  rw [readScalar_of_isPlainChar hself.chars hself.startsPlain fun c hc =>
    isSpace_of_isBlank (hself.isBlank_of_getLast? c hc), Scalar.plain, hself.implicitTag_eq,
    Scalar.string]

/-- **A scalar that is written for a text is read as that text**, a string, whatever the text. -/
theorem readScalar_yamlScalar (s : String) : readScalar (yamlScalar s).toList = some (.string s) := by
  unfold yamlScalar
  split
  · rename_i hplain
    exact readScalar_of_isPlainScalar hplain
  · rw [String.toList_ofList, readScalar, readQuoted_flatMap]
    simp only [Option.bind_eq_bind, Option.bind_some, String.ofList_toList]
    rfl

/-! ## Texts on one line -/

/-- **The text stays on its line.** -/
def OnOneLine (s : String) : Prop := ∀ c ∈ s.toList, isBreak c = false

theorem OnOneLine.append {s t : String} (hs : OnOneLine s) (ht : OnOneLine t) :
    OnOneLine (s ++ t) := by
  rw [OnOneLine, String.toList_append]
  exact List.forall_mem_append.2 ⟨hs, ht⟩

theorem OnOneLine.fixed {l : List Char} (h : l.all (!isBreak ·) = true) :
    OnOneLine (String.ofList l) := by
  intro c hc
  rw [String.toList_ofList] at hc
  simpa only [Bool.not_eq_true'] using List.all_eq_true.1 h c hc

theorem OnOneLine.of_isPlainChar {s : String} (h : ∀ c ∈ s.toList, isPlainChar c = true) :
    OnOneLine s :=
  fun c hc => isBreak_of_isPlainChar (h c hc)

theorem onOneLine_commentText (s : String) : OnOneLine (commentText s) := by
  intro c hc
  rw [commentText, String.toList_ofList] at hc
  obtain ⟨d, -, rfl⟩ := List.mem_map.1 hc
  split
  · rfl
  · rename_i hd
    rw [Bool.or_eq_true, not_or] at hd
    exact Bool.eq_false_iff.2 hd.1

theorem step_eq_none_of_isBreak (s : Inside) {c : Char} (h : isBreak c = true) :
    s.step c = none := by
  simp only [isBreak, Bool.or_eq_true, beq_iff_eq] at h
  obtain (((rfl | rfl) | rfl) | rfl) | rfl := h <;> cases s <;> rfl

/-- **What is read between quotes stays on its line.** -/
theorem exists_append_of_readQuoted {s : Inside} {l text left : List Char}
    (h : readQuoted s l = some (text, left)) :
    ∃ read, l = read ++ left ∧ ∀ c ∈ read, isBreak c = false := by
  induction l generalizing s text with
  | nil => cases h
  | cons c rest ih =>
    unfold readQuoted at h
    split at h
    · -- only a quote closes the scalar
      rename_i hcloses
      cases h
      refine ⟨[c], rfl, List.forall_mem_singleton.2 (Bool.eq_false_iff.2 fun hbreak => ?_)⟩
      cases s with
      | text =>
        rw [eq_of_beq hcloses] at hbreak
        exact absurd hbreak (by decide)
      | escape => cases hcloses
      | code missing value => cases hcloses
    · simp only [Option.bind_eq_bind, Option.bind_eq_some_iff, Option.pure_def] at h
      obtain ⟨⟨next, first⟩, hstep, ⟨more, left'⟩, hrest, heq⟩ := h
      cases heq
      obtain ⟨read, rfl, hread⟩ := ih hrest
      refine ⟨c :: read, rfl, List.forall_mem_cons.2 ⟨Bool.eq_false_iff.2 fun hbreak => ?_, hread⟩⟩
      rw [step_eq_none_of_isBreak s hbreak] at hstep
      cases hstep

theorem onOneLine_yamlScalar (s : String) : OnOneLine (yamlScalar s) := by
  unfold yamlScalar
  split
  · rename_i hplain
    simp only [isPlainScalar, Bool.and_eq_true, List.all_eq_true] at hplain
    exact .of_isPlainChar hplain.1.1.1.2
  · obtain ⟨read, hlist, hread⟩ := exists_append_of_readQuoted (readQuoted_flatMap s.toList [])
    rw [List.append_nil] at hlist
    rw [OnOneLine, String.toList_ofList, hlist]
    exact List.forall_mem_cons.2 ⟨rfl, hread⟩

end CloudDiagram.Yaml

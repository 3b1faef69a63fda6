import CloudDiagram.Generation.Emitter
import CloudDiagram.Proofs.Hcl.Outline

/-!
# Resource files line by line

* `Hcl.lineChars`: lines with their ends, `toList_lines`;
* `Hcl.PassesLines`: what lines add to a file, one line after the other;
* `Passes.fixedLine`, `Passes.attributeLine`, `Passes.labelLine`, `Passes.commentLine`: single lines;
* `Hcl.PassesSections`: texts with blank lines between them, see `toList_sections`.
-/

namespace CloudDiagram.Hcl

variable {p q r : Place} {hs hs' : List Heading} {refs refs' : List String}

/-- Lines with their ends. -/
def lineChars (ls : List String) : List Char := ls.flatMap fun l => l.toList ++ ['\n']

theorem toList_lines {ls : List String} (h : ls ≠ []) :
    (lines ls).toList ++ ['\n'] = lineChars ls := by
  induction ls with
  | nil => exact absurd rfl h
  | cons l rest ih =>
    rw [lineChars, List.flatMap_cons]
    cases rest with
    | nil => rw [lines, String.intercalate_singleton, List.flatMap_nil, List.append_nil]
    | cons l' rest =>
      have hrest := ih (List.cons_ne_nil _ _)
      rw [lines, lineChars] at hrest
      rw [lines, String.intercalate_cons_cons, String.toList_append, String.toList_append,
        List.append_assoc, hrest]
      rfl

/-- **What lines add to a file.** -/
def PassesLines (p : Place) (ls : List String) (hs : List Heading) (refs : List String) (q : Place) :
    Prop :=
  Passes p (lineChars ls) hs refs q

theorem PassesLines.nil : PassesLines p [] [] [] p := ⟨[], rfl, rfl, rfl⟩

theorem PassesLines.cons {l : String} {ls : List String}
    (hl : Passes p (l.toList ++ ['\n']) hs refs q) (hls : PassesLines q ls hs' refs' r) :
    PassesLines p (l :: ls) (hs ++ hs') (refs ++ refs') r :=
  hl.append hls

theorem PassesLines.append {ls ls' : List String} (h : PassesLines p ls hs refs q)
    (h' : PassesLines q ls' hs' refs' r) :
    PassesLines p (ls ++ ls') (hs ++ hs') (refs ++ refs') r := by
  rw [PassesLines, lineChars, List.flatMap_append]
  exact Passes.append h h'

theorem PassesLines.passes {ls : List String} (h : PassesLines p ls hs refs q) (hne : ls ≠ []) :
    Passes p ((lines ls).toList ++ ['\n']) hs refs q := by
  rw [toList_lines hne]
  exact h

/-! ## Single lines -/

theorem Passes.fixedLine {l : List Char} (h : survey p (l ++ ['\n']) = some (hs, refs, q)) :
    Passes p ((String.ofList l).toList ++ ['\n']) hs refs q := by
  rw [String.toList_ofList]
  exact .fixed h

variable {b : Bracket} {outer : List Bracket}

/-- **A string given to a name** inside a block, whatever the string. -/
theorem Passes.attributeLine {l : List Char} (s : String)
    (h : survey (.inside b outer) l = some ([], [], .inside b outer)) :
    Passes (.inside b outer) ((String.ofList l ++ hclString s).toList ++ ['\n']) [] []
      (.inside b outer) := by
  have hend : Passes (.inside b outer) ['\n'] [] [] (.inside b outer) := ⟨_, rfl, rfl, rfl⟩
  rw [String.toList_append, String.toList_ofList]
  exact ((Passes.fixed h).append (Passes.string b outer s)).append hend

theorem Passes.numberLine {l : List Char} (n : Nat)
    (h : survey (.inside b outer) l = some ([], [], .inside b outer)) :
    Passes (.inside b outer) ((String.ofList l ++ toString n).toList ++ ['\n']) [] []
      (.inside b outer) := by
  have hlist : (toString n).toList = Text.numeral n := Nat.toList_repr
  rw [String.toList_append, String.toList_ofList, hlist, List.append_assoc]
  exact (Passes.fixed h).append (Passes.numeral b outer n)

/-- The text stays on its line. -/
def OnOneLine (s : String) : Prop := ∀ c ∈ s.toList, isLineEnd c = false

theorem OnOneLine.append {s t : String} (hs : OnOneLine s) (ht : OnOneLine t) :
    OnOneLine (s ++ t) := by
  rw [OnOneLine, String.toList_append]
  exact List.forall_mem_append.2 ⟨hs, ht⟩

theorem OnOneLine.fixed {l : List Char} (h : l.all (!isLineEnd ·) = true) :
    OnOneLine (String.ofList l) := by
  intro c hc
  rw [String.toList_ofList] at hc
  simpa using List.all_eq_true.1 h c hc

theorem onOneLine_commentText (s : String) : OnOneLine (commentText s) := by
  intro c hc
  rw [commentText, String.toList_ofList] at hc
  obtain ⟨d, -, rfl⟩ := List.mem_map.1 hc
  split
  · rfl
  · rename_i hd
    simp only [Bool.or_eq_true, not_or] at hd
    have hbreak := hd.1
    simp only [isLineBreak, Bool.or_eq_true, not_or] at hbreak
    simp [isLineEnd, hbreak]

theorem Passes.commentLine {l : List Char} {s : String}
    (h : OnOneLine (String.ofList ('#' :: l) ++ s)) :
    Passes .top ((String.ofList ('#' :: l) ++ s).toList ++ ['\n']) [.comment] [] .top := by
  have hlist : (String.ofList ('#' :: l) ++ s).toList = '#' :: (l ++ s.toList) := by
    rw [String.toList_append, String.toList_ofList]
    rfl
  rw [OnOneLine, hlist] at h
  rw [hlist]
  exact .comment fun c hc => h c (List.mem_cons_of_mem _ hc)

/-- The start of a block whose last label is still open. -/
def surveyLabel (text : List Char) : Option (String × List String) :=
  match scan .code text with
  | .ok (ts, .literal []) =>
    match follow .top ts, references ts with
    | some ([], .heading type labels), [] => some (type, labels)
    | _, _ => none
  | _ => none

/-- **The first line of a block** with a last label of plain characters. -/
theorem Passes.labelLine (type : String) (labels : List String) {l : List Char} {name : String}
    (hname : ∀ c ∈ name.toList, Plain c) (h : surveyLabel l = some (type, labels)) :
    Passes .top ((String.ofList l ++ name ++ "\" \x7b").toList ++ ['\n'])
      [.block type (labels ++ [name])] [] (.inside .brace []) := by
  unfold surveyLabel at h
  split at h
  case h_2 => cases h
  rename_i ts hscan
  split at h
  case h_2 => cases h
  rename_i hfollow hrefs
  cases h
  have hbody := scan_plain hname []
  have hend : scan (.literal ([] ++ name.toList)) ['"', ' ', '\x7b', '\n'] =
      .ok ([.string name, .opening .brace, .lineEnd], .code) := by
    rw [List.nil_append, ← String.ofList_toList (s := name), String.toList_ofList]
    rfl
  have hlist : (String.ofList l ++ name ++ "\" \x7b").toList ++ ['\n'] =
      l ++ (name.toList ++ ['"', ' ', '\x7b', '\n']) := by
    rw [String.toList_append, String.toList_append, String.toList_ofList, List.append_assoc,
      List.append_assoc]
    rfl
  rw [hlist]
  refine ⟨_, scan_append hscan (scan_append hbody hend), follow_append hfollow rfl, ?_⟩
  rw [references, List.filterMap_append, ← references, hrefs]
  rfl

/-! ## Sections -/

/-- Texts with their ends, each after a blank line. -/
def sectionChars (ss : List String) : List Char := ss.flatMap fun s => '\n' :: (s.toList ++ ['\n'])

theorem toList_sections (s : String) (ss : List String) :
    (String.intercalate "\n\n" (s :: ss)).toList ++ ['\n'] =
      s.toList ++ ['\n'] ++ sectionChars ss := by
  induction ss generalizing s with
  | nil => rw [String.intercalate_singleton, sectionChars, List.flatMap_nil, List.append_nil]
  | cons t rest ih =>
    have hbreak : "\n\n".toList = ['\n', '\n'] := rfl
    have hcons : sectionChars (t :: rest) = '\n' :: (t.toList ++ ['\n']) ++ sectionChars rest := rfl
    rw [String.intercalate_cons_cons, String.toList_append, String.toList_append, List.append_assoc,
      ih, hbreak, hcons]
    simp

/-- **What texts with blank lines between them add to a file.** -/
def PassesSections (ss : List String) (hs : List Heading) (refs : List String) : Prop :=
  Passes .top (sectionChars ss) hs refs .top

theorem PassesSections.nil : PassesSections [] [] [] := ⟨[], rfl, rfl, rfl⟩

theorem PassesSections.cons {s : String} {ss : List String}
    (h : Passes .top (s.toList ++ ['\n']) hs refs .top) (h' : PassesSections ss hs' refs') :
    PassesSections (s :: ss) (hs ++ hs') (refs ++ refs') := by
  have hblank : Passes .top ['\n'] [] [] .top := ⟨_, rfl, rfl, rfl⟩
  exact (hblank.append h).append h'

theorem PassesSections.append {ss ss' : List String} (h : PassesSections ss hs refs)
    (h' : PassesSections ss' hs' refs') : PassesSections (ss ++ ss') (hs ++ hs') (refs ++ refs') := by
  rw [PassesSections, sectionChars, List.flatMap_append]
  exact Passes.append h h'

end CloudDiagram.Hcl

import CloudDiagram.Proofs.Except
import CloudDiagram.Shell.Command
import Mathlib.Data.List.TakeWhile

/-!
# How commands are spelled

An option can be spelled in several ways, and options stand between plain arguments in any order. What
is read of the arguments is therefore a relation, and the scanner is the function side of it.

* `OptionSpec.Takes`, `Level.Long`, `Level.Letters`: the arguments that spell options;
* `Level.Reads`: what is read of arguments, one after the other;
* **`scan_eq_ok_iff`**: the scanner accepts the arguments that can be read, and no others;
* **`ofArguments_eq_ok_iff`**: an invocation is what stands before the name of a command and after it.
-/

namespace CloudDiagram.Shell

/-! ## Options -/

/-- **How an option gets its value**: what is attached to it, else the argument after it. An option that
takes no value has the empty one. -/
inductive OptionSpec.Takes (spec : OptionSpec) : Option String → List String → String → Prop
  | attached {value : String} (harity : spec.arity = .value) : spec.Takes (some value) [] value
  | next {value : String} (harity : spec.arity = .value) (hvalue : looksLikeOption value = false) :
      spec.Takes none [value] value
  | alone (harity : spec.arity ≠ .value) : spec.Takes none [] ""

/-- The name is that of an option, and does not ask for the version. -/
def Level.Names (level : Level) (name : List Char) (spec : OptionSpec) : Prop :=
  ¬ (level.hasVersion = true ∧ String.ofList name = "version") ∧
    level.options.find? (·.long == String.ofList name) = some spec

/-- The letter is that of an option, and does not ask for the version. -/
def Level.HasLetter (level : Level) (c : Char) (spec : OptionSpec) : Prop :=
  ¬ (level.hasVersion = true ∧ c = 'V') ∧ level.options.find? (·.short == some c) = some spec

/-- **What two dashes, a text and perhaps an argument after it spell**: the option of the name, which
ends at the first equals sign. -/
inductive Level.Long (level : Level) : List Char → List String → OptionSpec → String → Prop
  | named {name : List Char} {words : List String} {spec : OptionSpec} {value : String}
      (hname : '=' ∉ name) (hspec : level.Names name spec) (htakes : spec.Takes none words value) :
      level.Long name words spec value
  | equals {name text : List Char} {words : List String} {spec : OptionSpec} {value : String}
      (hname : '=' ∉ name) (hspec : level.Names name spec)
      (htakes : spec.Takes (some (String.ofList text)) words value) :
      level.Long (name ++ '=' :: text) words spec value

/-- **What a dash, letters and perhaps an argument after them spell**: an option for each letter, up to
one that takes a value. -/
inductive Level.Letters (level : Level) :
    List Char → List String → List (OptionSpec × String) → Prop
  | nil : level.Letters [] [] []
  | flag {c : Char} {letters : List Char} {words : List String} {spec : OptionSpec}
      {options : List (OptionSpec × String)} (hspec : level.HasLetter c spec)
      (harity : spec.arity ≠ .value) (hrest : level.Letters letters words options) :
      level.Letters (c :: letters) words ((spec, "") :: options)
  | value {c : Char} {letters : List Char} {words : List String} {spec : OptionSpec} {value : String}
      (hspec : level.HasLetter c spec) (harity : spec.arity = .value)
      (htakes : spec.Takes (attachedTo letters) words value) :
      level.Letters (c :: letters) words [(spec, value)]

/-- Options added one after the other. -/
def Matches.addAll (m : Matches) (options : List (OptionSpec × String)) : Except Refusal Matches :=
  options.foldlM (fun m o => m.add o.1 o.2) m

variable {level : Level} {spec : OptionSpec} {m next last : Matches} {attached : Option String}
  {text letters : List Char} {words rest more : List String} {value : String}

theorem addAll_cons {options : List (OptionSpec × String)} :
    m.addAll ((spec, value) :: options) = .ok last ↔
      ∃ next, m.add spec value = .ok next ∧ next.addAll options = .ok last := by
  rw [Matches.addAll, List.foldlM_cons]
  exact bind_eq_ok

theorem addAll_singleton : m.addAll [(spec, value)] = m.add spec value := by
  rw [Matches.addAll, List.foldlM_cons]
  cases m.add spec value <;> rfl

theorem takeOption_eq_ok_iff : takeOption m spec attached rest = .ok (next, more) ↔
    ∃ words value, spec.Takes attached words value ∧ rest = words ++ more ∧
      m.add spec value = .ok next := by
  constructor
  · intro h
    unfold takeOption at h
    split at h
    · rename_i value harity
      obtain ⟨_, hadd, heq⟩ := map_eq_ok.1 h
      cases heq
      exact ⟨[], value, .attached harity, rfl, hadd⟩
    · rename_i harity
      split at h
      · cases h
      · split at h
        · cases h
        · rename_i value _ hvalue
          obtain ⟨_, hadd, heq⟩ := map_eq_ok.1 h
          cases heq
          exact ⟨[value], value, .next harity (Bool.eq_false_iff.2 hvalue), rfl, hadd⟩
    · cases h
    · rename_i harity
      obtain ⟨_, hadd, heq⟩ := map_eq_ok.1 h
      cases heq
      exact ⟨[], "", .alone harity, rfl, hadd⟩
  · rintro ⟨words, value, htakes, rfl, hadd⟩
    cases htakes with
    | attached harity => simp only [takeOption, harity, hadd, Except.map, List.nil_append]
    | next harity hvalue =>
      simp only [takeOption, harity, hvalue, hadd, Except.map, List.cons_append, List.nil_append,
        Bool.false_eq_true, if_false]
    | alone harity =>
      unfold takeOption
      split
      · contradiction
      · contradiction
      · contradiction
      · rw [hadd]
        rfl

theorem takeNamed_eq_ok_iff {name : List Char} :
    takeNamed level m name attached rest = .ok (next, more) ↔
      ∃ words spec value, level.Names name spec ∧ spec.Takes attached words value ∧
        rest = words ++ more ∧ m.add spec value = .ok next := by
  unfold takeNamed Level.Names
  by_cases hversion : level.hasVersion = true ∧ String.ofList name = "version"
  · simp [hversion]
  · have hcond : ¬ (level.hasVersion && String.ofList name = "version") = true := by
      simpa using hversion
    rw [if_neg hcond]
    cases level.options.find? (·.long == String.ofList name) with
    | none => simp
    | some spec => simp [hversion, takeOption_eq_ok_iff]

theorem takeLong_named (h : '=' ∉ text) :
    takeLong level m text rest = takeNamed level m text none rest := by
  have hall : ∀ c ∈ text, (c != '=') = true := fun c hc => bne_iff_ne.2 fun heq => h (heq ▸ hc)
  rw [takeLong, List.takeWhile_eq_self_iff.2 hall, List.dropWhile_eq_nil_iff.2 hall]

theorem takeLong_equals {name : List Char} (h : '=' ∉ name) :
    takeLong level m (name ++ '=' :: text) rest =
      takeNamed level m name (some (String.ofList text)) rest := by
  have hall : ∀ c ∈ name, (c != '=') = true := fun c hc => bne_iff_ne.2 fun heq => h (heq ▸ hc)
  rw [takeLong, List.takeWhile_append_of_pos hall, List.dropWhile_append_of_pos hall,
    List.takeWhile_cons_of_neg (by decide), List.dropWhile_cons_of_neg (by decide), List.append_nil]

theorem takeLong_eq_ok_iff : takeLong level m text rest = .ok (next, more) ↔
    ∃ words spec value, level.Long text words spec value ∧ rest = words ++ more ∧
      m.add spec value = .ok next := by
  constructor
  · intro h
    by_cases hequals : '=' ∈ text
    · obtain ⟨name, text, rfl, hname⟩ := List.eq_append_cons_of_mem hequals
      rw [takeLong_equals hname] at h
      obtain ⟨words, spec, value, hspec, htakes, hrest, hadd⟩ := takeNamed_eq_ok_iff.1 h
      exact ⟨words, spec, value, .equals hname hspec htakes, hrest, hadd⟩
    · rw [takeLong_named hequals] at h
      obtain ⟨words, spec, value, hspec, htakes, hrest, hadd⟩ := takeNamed_eq_ok_iff.1 h
      exact ⟨words, spec, value, .named hequals hspec htakes, hrest, hadd⟩
  · rintro ⟨words, spec, value, hlong, hrest, hadd⟩
    cases hlong with
    | named hname hspec htakes =>
      rw [takeLong_named hname]
      exact takeNamed_eq_ok_iff.2 ⟨words, spec, value, hspec, htakes, hrest, hadd⟩
    | equals hname hspec htakes =>
      rw [takeLong_equals hname]
      exact takeNamed_eq_ok_iff.2 ⟨words, spec, value, hspec, htakes, hrest, hadd⟩

theorem takeShort_cons_eq_ok_iff {c : Char} :
    takeShort level m rest (c :: letters) = .ok (next, more) ↔
      ∃ spec, level.HasLetter c spec ∧
        ((spec.arity = .value ∧ takeOption m spec (attachedTo letters) rest = .ok (next, more)) ∨
          (spec.arity ≠ .value ∧ ∃ m', m.add spec "" = .ok m' ∧
            takeShort level m' rest letters = .ok (next, more))) := by
  rw [takeShort]
  unfold Level.HasLetter
  by_cases hversion : level.hasVersion = true ∧ c = 'V'
  · simp [hversion]
  · have hcond : ¬ (level.hasVersion && c = 'V') = true := by simpa using hversion
    rw [if_neg hcond]
    cases level.options.find? (·.short == some c) with
    | none => simp
    | some spec =>
      by_cases harity : spec.arity = .value
      · simp [hversion, harity]
      · simp only [hversion, not_false_eq_true, true_and, Option.some.injEq,
          exists_eq_left', harity, false_and, false_or, ne_eq]
        exact bind_eq_ok

theorem takeShort_eq_ok_iff : takeShort level m rest letters = .ok (next, more) ↔
    ∃ words options, level.Letters letters words options ∧ rest = words ++ more ∧
      m.addAll options = .ok next := by
  induction letters generalizing m with
  | nil =>
    constructor
    · intro h
      cases h
      exact ⟨[], [], .nil, rfl, rfl⟩
    · rintro ⟨words, options, hletters, rfl, hadd⟩
      cases hletters
      cases hadd
      rfl
  | cons c letters ih =>
    rw [takeShort_cons_eq_ok_iff]
    constructor
    · rintro ⟨spec, hspec, ⟨harity, htake⟩ | ⟨harity, m', hflag, hlater⟩⟩
      · obtain ⟨words, value, htakes, hrest, hadd⟩ := takeOption_eq_ok_iff.1 htake
        exact ⟨words, _, .value hspec harity htakes, hrest, addAll_singleton.trans hadd⟩
      · obtain ⟨words, options, hletters, hrest, hadd⟩ := ih.1 hlater
        exact ⟨words, _, .flag hspec harity hletters, hrest, addAll_cons.2 ⟨m', hflag, hadd⟩⟩
    · rintro ⟨words, options, hletters, hrest, hadd⟩
      cases hletters with
      | flag hspec harity hletters =>
        obtain ⟨m', hflag, hadd⟩ := addAll_cons.1 hadd
        exact ⟨_, hspec, .inr ⟨harity, m', hflag, ih.2 ⟨words, _, hletters, hrest, hadd⟩⟩⟩
      | value hspec harity htakes =>
        rw [addAll_singleton] at hadd
        exact ⟨_, hspec, .inl ⟨harity,
          takeOption_eq_ok_iff.2 ⟨words, _, htakes, hrest, hadd⟩⟩⟩

/-! ## Arguments -/

/-- **What is read of arguments**, one after the other, up to the name of a subcommand. After a double
dash all of them are plain. -/
inductive Level.Reads (level : Level) :
    Matches → List String → Matches → Option (String × List String) → Prop
  | done {m : Matches} : level.Reads m [] m none
  | dashes {m : Matches} {rest : List String} :
      level.Reads m ("--" :: rest) { m with plain := m.plain ++ rest } none
  | command {m : Matches} {name : String} {rest : List String}
      (hplain : looksLikeOption name = false) (hname : name ∈ level.subcommands) :
      level.Reads m (name :: rest) m (some (name, rest))
  | plain {m last : Matches} {argument : String} {rest : List String}
      {found : Option (String × List String)} (hplain : looksLikeOption argument = false)
      (hname : argument ∉ level.subcommands) (htakes : level.takesPlain = true)
      (hrest : level.Reads (m.addPlain argument) rest last found) :
      level.Reads m (argument :: rest) last found
  | long {m next last : Matches} {text : List Char} {words rest : List String} {spec : OptionSpec}
      {value : String} {found : Option (String × List String)} (htext : text ≠ [])
      (hlong : level.Long text words spec value) (hadd : m.add spec value = .ok next)
      (hrest : level.Reads next rest last found) :
      level.Reads m (String.ofList ('-' :: '-' :: text) :: (words ++ rest)) last found
  | short {m next last : Matches} {c : Char} {letters : List Char} {words rest : List String}
      {options : List (OptionSpec × String)} {found : Option (String × List String)} (hc : c ≠ '-')
      (hletters : level.Letters (c :: letters) words options)
      (hadd : m.addAll options = .ok next) (hrest : level.Reads next rest last found) :
      level.Reads m (String.ofList ('-' :: c :: letters) :: (words ++ rest)) last found

variable {arguments : List String} {argument : String} {found : Option (String × List String)}

theorem looksLikeOption_eq_false_iff :
    looksLikeOption argument = false ↔ ∀ c letters, argument.toList ≠ '-' :: c :: letters := by
  unfold looksLikeOption
  split
  · rename_i c letters heq
    simp [heq]
  · rename_i hne
    simpa using hne

theorem reads_of_scan {fuel : Nat} (hfuel : arguments.length < fuel)
    (h : scan level fuel m arguments = .ok (last, found)) : level.Reads m arguments last found := by
  induction fuel generalizing m arguments with
  | zero => omega
  | succ fuel ih =>
    cases arguments with
    | nil =>
      cases h
      exact .done
    | cons argument rest =>
      rw [List.length_cons] at hfuel
      have hargument : argument = String.ofList argument.toList := String.ofList_toList.symm
      rw [scan] at h
      split at h
      · rename_i heq
        rw [hargument, heq]
        cases h
        exact .dashes
      · rename_i text hdashes heq
        obtain ⟨⟨next, more⟩, htake, hscan⟩ := bind_eq_ok.1 h
        obtain ⟨words, spec, value, hlong, rfl, hadd⟩ := takeLong_eq_ok_iff.1 htake
        rw [List.length_append] at hfuel
        rw [hargument, heq]
        exact .long hdashes hlong hadd (ih (by omega) hscan)
      · rename_i c letters hdash heq
        obtain ⟨⟨next, more⟩, htake, hscan⟩ := bind_eq_ok.1 h
        obtain ⟨words, options, hletters, rfl, hadd⟩ := takeShort_eq_ok_iff.1 htake
        rw [List.length_append] at hfuel
        rw [hargument, heq]
        exact .short hdash hletters hadd (ih (by omega) hscan)
      · rename_i hdash
        have hplain := looksLikeOption_eq_false_iff.2 hdash
        split at h
        · rename_i hname
          cases h
          exact .command hplain (List.contains_iff_mem.1 hname)
        · rename_i hname
          split at h
          · rename_i htakes
            have hother := fun hmem => hname (List.contains_iff_mem.2 hmem)
            exact .plain hplain hother htakes (ih (by omega) h)
          · cases h

theorem scan_plain {fuel : Nat} (h : looksLikeOption argument = false) :
    scan level (fuel + 1) m (argument :: rest) =
      if level.subcommands.contains argument then .ok (m, some (argument, rest))
      else if level.takesPlain then scan level fuel (m.addPlain argument) rest
      else .error .usage := by
  have hplain := looksLikeOption_eq_false_iff.1 h
  rw [scan]
  split
  · rename_i heq
    exact absurd heq (hplain _ _)
  · rename_i heq
    exact absurd heq (hplain _ _)
  · rename_i heq
    exact absurd heq (hplain _ _)
  · rfl

theorem scan_long {fuel : Nat} (h : text ≠ []) :
    scan level (fuel + 1) m (String.ofList ('-' :: '-' :: text) :: rest) =
      (takeLong level m text rest).bind fun (next, more) => scan level fuel next more := by
  rw [scan, String.toList_ofList]
  split
  · rename_i heq
    cases heq
    exact absurd rfl h
  · rename_i heq
    cases heq
    rfl
  · rename_i heq
    cases heq
    contradiction
  · rename_i hdash
    exact absurd rfl (hdash _ _)

theorem scan_short {fuel : Nat} {c : Char} (h : c ≠ '-') :
    scan level (fuel + 1) m (String.ofList ('-' :: c :: letters) :: rest) =
      (takeShort level m rest (c :: letters)).bind fun (next, more) => scan level fuel next more := by
  rw [scan, String.toList_ofList]
  split
  · rename_i heq
    cases heq
    exact absurd rfl h
  · rename_i heq
    cases heq
    exact absurd rfl h
  · rename_i heq
    cases heq
    rfl
  · rename_i hdash
    exact absurd rfl (hdash _ _)

theorem scan_of_reads (h : level.Reads m arguments last found) {fuel : Nat}
    (hfuel : arguments.length < fuel) : scan level fuel m arguments = .ok (last, found) := by
  induction h generalizing fuel with
  | done => cases fuel <;> rfl
  | @dashes m rest =>
    obtain _ | fuel := fuel
    · omega
    · rfl
  | command hplain hname =>
    obtain _ | fuel := fuel
    · omega
    · rw [scan_plain hplain, if_pos (List.contains_iff_mem.2 hname)]
  | plain hplain hname htakes _ ih =>
    obtain _ | fuel := fuel
    · omega
    · rw [List.length_cons] at hfuel
      have hother := fun hmem => hname (List.contains_iff_mem.1 hmem)
      rw [scan_plain hplain, if_neg hother, if_pos htakes, ih (by omega)]
  | long htext hlong hadd _ ih =>
    obtain _ | fuel := fuel
    · omega
    · rw [List.length_cons, List.length_append] at hfuel
      rw [scan_long htext, takeLong_eq_ok_iff.2 ⟨_, _, _, hlong, rfl, hadd⟩, Except.bind]
      exact ih (by omega)
  | short hc hletters hadd _ ih =>
    obtain _ | fuel := fuel
    · omega
    · rw [List.length_cons, List.length_append] at hfuel
      rw [scan_short hc, takeShort_eq_ok_iff.2 ⟨_, _, hletters, rfl, hadd⟩, Except.bind]
      exact ih (by omega)

/-- **The scanner accepts the arguments that can be read**, and no others. -/
theorem scan_eq_ok_iff {fuel : Nat} (hfuel : arguments.length < fuel) :
    scan level fuel m arguments = .ok (last, found) ↔ level.Reads m arguments last found :=
  ⟨reads_of_scan hfuel, fun h => scan_of_reads h hfuel⟩

/-! ## Invocations -/

theorem plain_eq_of_add (h : m.add spec value = .ok next) : next.plain = m.plain := by
  unfold Matches.add at h
  split at h
  · cases h
  · cases h
    rfl

theorem plain_eq_of_addAll {options : List (OptionSpec × String)} (h : m.addAll options = .ok next) :
    next.plain = m.plain := by
  induction options generalizing m with
  | nil =>
    cases h
    rfl
  | cons o options ih =>
    obtain ⟨m', hfirst, hrest⟩ := addAll_cons.1 h
    rw [ih hrest, plain_eq_of_add hfirst]

theorem plain_eq_of_reads (h : toolLevel.Reads m arguments last found) (hfound : found ≠ none) :
    last.plain = m.plain := by
  induction h with
  | done => exact absurd rfl hfound
  | dashes => exact absurd rfl hfound
  | command => rfl
  | plain _ _ htakes => cases htakes
  | long _ _ hadd _ ih => rw [ih hfound, plain_eq_of_add hadd]
  | short _ _ hadd _ ih => rw [ih hfound, plain_eq_of_addAll hadd]

theorem length_of_reads {name : String} (h : level.Reads m arguments last (some (name, rest))) :
    rest.length < arguments.length := by
  generalize hfound : some (name, rest) = found at h
  induction h with
  | done => cases hfound
  | dashes => cases hfound
  | command =>
    cases hfound
    exact Nat.lt_succ_self _
  | plain _ _ _ _ ih => exact Nat.lt_succ_of_lt (ih hfound)
  | long _ _ _ _ ih =>
    have hshorter := ih hfound
    rw [List.length_cons, List.length_append]
    omega
  | short _ _ _ _ ih =>
    have hshorter := ih hfound
    rw [List.length_cons, List.length_append]
    omega

theorem found_eq_none_of_reads {name : String}
    (h : (commandLevel name).Reads m arguments last found) : found = none := by
  induction h with
  | done => rfl
  | dashes => rfl
  | command _ hname => cases hname
  | plain _ _ _ _ ih => exact ih
  | long _ _ _ _ ih => exact ih
  | short _ _ _ _ ih => exact ih

/-- **An invocation is read** from some arguments exactly when they are the name of a command with
options before it, and with options and plain arguments after it that the command takes. -/
theorem ofArguments_eq_ok_iff {i : Invocation} : Invocation.ofArguments arguments = .ok i ↔
    ∃ outer inner name rest command, toolLevel.Reads .empty arguments outer (some (name, rest)) ∧
      (commandLevel name).Reads .empty rest inner none ∧ command? name inner = some command ∧
      i = .ofMatches outer inner command := by
  constructor
  · intro h
    obtain ⟨⟨outer, found⟩, houter, h⟩ := bind_eq_ok.1 h
    have houter := (scan_eq_ok_iff (Nat.lt_succ_self _)).1 houter
    cases found with
    | none => cases h
    | some found =>
      obtain ⟨name, rest⟩ := found
      dsimp only at h
      split at h
      · cases h
      · obtain ⟨⟨inner, found⟩, hinner, h⟩ := bind_eq_ok.1 h
        have hfuel := Nat.lt_succ_of_lt (length_of_reads houter)
        have hinner := (scan_eq_ok_iff hfuel).1 hinner
        obtain rfl := found_eq_none_of_reads hinner
        dsimp only at h
        split at h
        · cases h
        · rename_i command hcommand
          cases h
          exact ⟨outer, inner, name, rest, command, houter, hinner, hcommand, rfl⟩
  · rintro ⟨outer, inner, name, rest, command, houter, hinner, hcommand, rfl⟩
    have hfuel := Nat.lt_succ_of_lt (length_of_reads houter)
    have hempty : outer.plain = [] := plain_eq_of_reads houter (Option.some_ne_none _)
    have hplain : ¬ (!outer.plain.isEmpty) = true := by simp [hempty]
    refine bind_eq_ok.2 ⟨_, (scan_eq_ok_iff (Nat.lt_succ_self _)).2 houter, ?_⟩
    dsimp only
    rw [if_neg hplain]
    refine bind_eq_ok.2 ⟨_, (scan_eq_ok_iff hfuel).2 hinner, ?_⟩
    dsimp only
    rw [hcommand]
    rfl

/-- What stands after the name of the command counts, and a double dash makes an argument plain. -/
example : Invocation.ofArguments ["-v", "-sold", "set", "-vvsnew", "node-1", "--", "count", "-5"] =
    .ok ⟨none, "new", 2, .set "node-1" "count" "-5"⟩ := rfl

end CloudDiagram.Shell

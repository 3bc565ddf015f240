import LintRelay.Proofs.Arguments
import LintRelay.Proofs.SearchPath

/-!
# What comes of a probe

The linters that settings ask for are probed for their program and, for two of them, for a
configuration file. Here it is shown that a probe has two outcomes only: the linter has all that it
needs (`Host.IsReady`), or it is switched off and says what is missing, and then does nothing
(`Host.configure_outcome`).

The name of a configuration file is what its setting expands to (`Host.configName`). One that is not
an absolute path is looked for from the root of the workspace upwards. The program lists the
directories with fuel; each is shorter than the one before (`Path.length_lt_of_parentChars?`), so
that the list goes up to the end (`Path.getElem?_ancestors`), and what is found is in the nearest
directory that has a file of that name which may be opened (`Host.locate?_eq_some_iff`).
-/

namespace LintRelay

/-! ## Going up -/

namespace Path

/-- More segments, one of which is not empty, make a longer text. -/
theorem length_intercalate_lt (front : List (List Char)) {others : List (List Char)}
    {segment : List Char} (hmem : segment ∈ others) (hne : segment ≠ []) :
    (List.intercalate ['/'] front).length < (List.intercalate ['/'] (front ++ others)).length := by
  by_cases hfront : front = []
  · subst hfront
    obtain ⟨c, hc⟩ := List.exists_mem_of_ne_nil segment hne
    exact List.length_pos_of_mem (mem_intercalate hmem hc)
  · rw [intercalate_append hfront (List.ne_nil_of_mem hmem), List.length_append, List.length_cons]
    omega

/-- Segments without the last step make a shorter text, whatever stands in front. -/
theorem length_above_lt (front : List (List Char)) {segments above : List (List Char)}
    {segment : List Char} (h : dropIdle segments.reverse = segment :: above) :
    (List.intercalate ['/'] (front ++ (dropIdle above).reverse)).length <
      (List.intercalate ['/'] (front ++ segments)).length := by
  obtain ⟨others, hsegments, hmem⟩ := exists_append_of_dropIdle h
  have hne : segment ≠ [] := (isStep_iff.1 (isStep_of_dropIdle h)).1
  rw [hsegments, ← List.append_assoc]
  exact length_intercalate_lt _ hmem hne

/-- The path above is shorter. -/
theorem length_lt_of_parentChars? {path above : List Char} (h : parentChars? path = some above) :
    above.length < path.length := by
  have hpath : List.intercalate ['/'] (path.splitOn '/') = path := List.intercalate_splitOn '/'
  unfold parentChars? at h
  split at h
  · -- From the root: the slash in front stays.
    next hrooted =>
    obtain ⟨rest, rfl⟩ := isRooted_iff.1 hrooted
    split at h
    · cases h
    · next segment segments hdrop =>
      have hlength := length_above_lt [] hdrop
      rw [List.nil_append, List.nil_append, List.tail_cons, List.intercalate_splitOn] at hlength
      rw [← Option.some.inj h]
      exact Nat.succ_lt_succ hlength
  · split at h
    · -- From the current directory: the dot in front stays, unless nothing else is left.
      next rest hsegments =>
      rw [hsegments] at hpath
      split at h
      · rw [← Option.some.inj h, ← hpath]
        exact List.length_pos_of_mem (mem_intercalate List.mem_cons_self List.mem_cons_self)
      · next segment segments hdrop =>
        rw [← Option.some.inj h, ← hpath]
        exact length_above_lt [['.']] hdrop
    · split at h
      · cases h
      · next segment segments hdrop =>
        have hlength := length_above_lt [] hdrop
        rw [List.nil_append, List.nil_append, hpath] at hlength
        rw [← Option.some.inj h]
        exact hlength

/-- The path a number of steps above, if there are so many. -/
def climb : Nat → String → Option String
  | 0, path => some path
  | n + 1, path => (parent? path).bind (climb n)

/-- The paths above are listed up to the end. -/
theorem getElem?_ancestorsFrom {fuel : Nat} {path : List Char} (hfuel : path.length ≤ fuel)
    (n : Nat) :
    ((ancestorsFrom fuel path).map String.ofList)[n]? = climb n (String.ofList path) := by
  -- The fuel left is enough for the path above, since that is shorter.
  induction fuel generalizing path n with
  | zero =>
    obtain rfl : path = [] := List.length_eq_zero_iff.1 (Nat.le_zero.1 hfuel)
    cases n <;> rfl
  | succ fuel ih =>
    unfold ancestorsFrom
    cases n with
    | zero => cases parentChars? path <;> rfl
    | succ n =>
      have hclimb : climb (n + 1) (String.ofList path) =
          ((parentChars? path).map String.ofList).bind (climb n) := by
        rw [climb, parent?, String.toList_ofList]
      rw [hclimb]
      cases habove : parentChars? path with
      | none => rfl
      | some above =>
        have hshort : above.length ≤ fuel :=
          Nat.le_of_lt_succ (Nat.lt_of_lt_of_le (length_lt_of_parentChars? habove) hfuel)
        exact ih hshort n

theorem getElem?_ancestors (path : String) (n : Nat) : (ancestors path)[n]? = climb n path := by
  unfold ancestors
  rw [getElem?_ancestorsFrom (Nat.le_refl _), String.ofList_toList]

end Path

/-! ## Looking up -/

/-- The first of a sequence of places that is fit. -/
structure IsFirst (places : Nat → Option String) (fit : String → Bool) (found : String) :
    Prop where
  /-- It is fit. -/
  fits : fit found = true
  /-- It is one of the places, and none before it is fit. -/
  first : ∃ n, places n = some found ∧
    ∀ m < n, ∀ earlier, places m = some earlier → fit earlier = false

/-- What is found in a list is the first element that is fit. -/
theorem find?_eq_some_iff_isFirst {places : List String} {fit : String → Bool} {found : String} :
    places.find? fit = some found ↔ IsFirst (fun n => places[n]?) fit found := by
  rw [List.find?_eq_some_iff_getElem]
  constructor
  · rintro ⟨hfit, n, hn, hfound, hbefore⟩
    refine ⟨hfit, n, List.getElem?_eq_some_iff.2 ⟨hn, hfound⟩, fun m hm earlier hearlier => ?_⟩
    obtain ⟨_, rfl⟩ := List.getElem?_eq_some_iff.1 hearlier
    simpa using hbefore m hm
  · rintro ⟨hfit, n, hfound, hbefore⟩
    obtain ⟨hn, hfound⟩ := List.getElem?_eq_some_iff.1 hfound
    refine ⟨hfit, n, hn, hfound, fun m hm => ?_⟩
    simpa using hbefore m hm _ (List.getElem?_eq_getElem (Nat.lt_trans hm hn))

/-- What can be read is a file that may be opened. -/
theorem Tree.isReadable_iff {t : Tree} {directory path : String} :
    t.isReadable directory path = true ↔
      ∃ content program, t.stat directory path = .ok (.file content program) ∧
        content ≠ .locked := by
  unfold isReadable
  constructor
  · intro h
    split at h
    · next content program hstat => exact ⟨content, program, hstat, of_decide_eq_true h⟩
    · cases h
  · rintro ⟨content, program, hstat, hopen⟩
    rw [hstat]
    exact decide_eq_true hopen

/-- A text stands for what it expands to, and for itself where it does not expand. -/
theorem Variables.expandOrSelf_eq (vars : Variables) (input : String) :
    vars.expandOrSelf input = (vars.expand input).toOption.getD input := by
  unfold expandOrSelf
  cases vars.expand input <;> rfl

/-- Two analyzers need a configuration file. -/
theorem Analyzer.requiresConfig_iff {a : Analyzer} :
    a.requiresConfig = true ↔ a = .flexelint ∨ a = .pclintPlus := by
  cases a <;> decide

namespace Host

/-- The program that a name stands for, looked up from a directory. -/
structure Finds (h : Host) (directory name path : String) : Prop where
  /-- Nothing is found without a name. -/
  named : name ≠ ""
  /-- It can be run. -/
  runs : h.tree.isProgram h.directory path = true
  /-- A name with a directory part is taken from the directory. -/
  direct : 1 < Path.depth name →
    path = String.ofList (Path.fromDirectory directory.toList name.toList)
  /-- Any other name is looked for in the search path. -/
  searched : Path.depth name ≤ 1 →
    IsFirst (fun n => (splitPath h.searchPath)[n]?.map (h.candidate name directory))
      (h.tree.isProgram h.directory) path

/-- The file that a name stands for, looked up from a directory. -/
structure Locates (h : Host) (directory name path : String) : Prop where
  /-- It is a file that may be opened. -/
  readable : ∃ content program,
    h.tree.stat h.directory path = .ok (.file content program) ∧ content ≠ .locked
  /-- An absolute name is looked for as it is. -/
  absolute : Path.isRooted name.toList = true → path = name
  /-- Any other name is looked for in the directory and those above it, the nearest first. -/
  nearest : Path.isRooted name.toList = false →
    IsFirst (fun n => (Path.climb n directory).map (Path.join · name))
      (h.tree.isReadable h.directory) path

variable {h : Host} {directory name path : String}

theorem findProgram?_eq_some_iff :
    h.findProgram? name directory = some path ↔ h.Finds directory name path := by
  by_cases hname : name = ""
  · subst hname
    exact iff_of_false (by simp [findProgram?]) fun hfinds => hfinds.named rfl
  -- The directory part of a name decides where it is looked for.
  rcases Nat.lt_or_ge 1 (Path.depth name) with hdeep | hlone
  · have hdirect : h.findProgram? name directory =
        if h.tree.isProgram h.directory
            (String.ofList (Path.fromDirectory directory.toList name.toList)) then
          some (String.ofList (Path.fromDirectory directory.toList name.toList)) else none := by
      unfold findProgram?
      rw [if_neg hname, if_pos hdeep]
    rw [hdirect, Option.ite_none_right_eq_some, Option.some.injEq]
    constructor
    · rintro ⟨hruns, rfl⟩
      exact ⟨hname, hruns, fun _ => rfl, fun hlone => absurd hdeep (Nat.not_lt.2 hlone)⟩
    · intro hfinds
      obtain rfl := hfinds.direct hdeep
      exact ⟨hfinds.runs, rfl⟩
  · rw [h.findProgram?_eq directory hname hlone, find?_eq_some_iff_isFirst]
    simp only [List.getElem?_map]
    exact ⟨fun hfirst => ⟨hname, hfirst.fits, fun hdeep => absurd hdeep (Nat.not_lt.2 hlone),
      fun _ => hfirst⟩, fun hfinds => hfinds.searched hlone⟩

theorem locate?_eq_some_iff :
    h.locate? directory name = some path ↔ h.Locates directory name path := by
  unfold locate?
  cases hrooted : Path.isRooted name.toList with
  | true =>
    rw [if_pos rfl, Option.ite_none_right_eq_some, Option.some.injEq]
    constructor
    · rintro ⟨hfile, rfl⟩
      exact ⟨Tree.isReadable_iff.1 hfile, fun _ => rfl,
        fun hother => absurd (hrooted.symm.trans hother) (by decide)⟩
    · intro hlocates
      obtain rfl := hlocates.absolute hrooted
      exact ⟨Tree.isReadable_iff.2 hlocates.readable, rfl⟩
  | false =>
    rw [if_neg Bool.false_ne_true, find?_eq_some_iff_isFirst]
    simp only [List.getElem?_map, Path.getElem?_ancestors]
    exact ⟨fun hfirst => ⟨Tree.isReadable_iff.1 hfirst.fits,
      fun hother => absurd (hrooted.symm.trans hother) (by decide), fun _ => hfirst⟩,
      fun hlocates => hlocates.nearest hrooted⟩

/-- Nothing is found exactly if there is no program for the name. -/
theorem findProgram?_eq_none_iff :
    h.findProgram? name directory = none ↔ ∀ path, ¬ h.Finds directory name path := by
  rw [Option.eq_none_iff_forall_ne_some]
  exact forall_congr' fun path => not_congr findProgram?_eq_some_iff

/-- Nothing is found exactly if there is no file for the name. -/
theorem locate?_eq_none_iff :
    h.locate? directory name = none ↔ ∀ path, ¬ h.Locates directory name path := by
  rw [Option.eq_none_iff_forall_ne_some]
  exact forall_congr' fun path => not_congr locate?_eq_some_iff

/-! ## Outcomes -/

/-- A probe goes wrong at the program, or at the configuration file of an analyzer that needs one,
or it gives the linter both. -/
theorem probe_cases (h : Host) {l : Linter} (henabled : l.enabled = true) :
    (h.findProgram? l.executable l.root = none ∧
      h.probe l = l.disable (.noExecutable l.name)) ∨
    ∃ executable, h.findProgram? l.executable l.root = some executable ∧
      (l.analyzer.requiresConfig = false ∧ h.probe l = { l with executable } ∨
        l.analyzer.requiresConfig = true ∧
          (h.locate? l.root ((l.vars.expand l.configFile).toOption.getD l.configFile) = none ∧
            h.probe l = Linter.disable { l with executable } (.noConfig l.name) ∨
          ∃ configFile,
            h.locate? l.root ((l.vars.expand l.configFile).toOption.getD l.configFile) =
              some configFile ∧
            h.probe l = { l with executable, configFile })) := by
  rw [← Variables.expandOrSelf_eq]
  unfold probe
  rw [if_pos henabled]
  cases hfind : h.findProgram? l.executable l.root with
  | none => exact .inl ⟨rfl, rfl⟩
  | some executable =>
    refine .inr ⟨executable, rfl, ?_⟩
    cases hneeds : l.analyzer.requiresConfig with
    | false => exact .inl ⟨rfl, if_neg (by simp [hneeds])⟩
    | true =>
      refine .inr ⟨rfl, ?_⟩
      cases hlocate : h.locate? l.root (l.vars.expandOrSelf l.configFile) with
      | none => exact .inl ⟨rfl, by simp [hneeds, hlocate]; rfl⟩
      | some configFile => exact .inr ⟨configFile, rfl, by simp [hneeds, hlocate]⟩

variable (h : Host) (settings : Settings) (root : String)

/-- The linters that settings ask for are those of the analyzers that are switched on, in order. -/
theorem configure_eq :
    h.configure settings root =
      (Analyzer.all.filter fun a => settings.enable && settings.isOn a).map fun a =>
        h.probe (Linter.make a settings h.environment root) := by
  unfold configure
  rw [List.filter_map, List.map_map]
  rfl

theorem map_analyzer_configure :
    (h.configure settings root).map Linter.analyzer =
      Analyzer.all.filter fun a => settings.enable && settings.isOn a := by
  rw [configure_eq, List.map_map]
  exact List.map_id'' (fun a => (h.probe_settings _).1) _

/-- The name under which the configuration file of an analyzer is looked for: what the setting
expands to, and the setting itself if it does not expand. -/
def configName (a : Analyzer) : String :=
  ((Variables.ofWorkspace h.environment root).expand (settings.configFile a)).toOption.getD
    (settings.configFile a)

/-- There is a program for an analyzer. -/
def HasProgram (a : Analyzer) : Prop := ∃ path, h.Finds root (settings.executable a) path

/-- An analyzer that needs a configuration file has none. -/
def LacksConfig (a : Analyzer) : Prop :=
  (a = .flexelint ∨ a = .pclintPlus) ∧ ¬ ∃ path, h.Locates root (h.configName settings root a) path

/-- A linter that has all that it needs. -/
structure IsReady (l : Linter) : Prop where
  /-- It takes part in passes. -/
  enabled : l.enabled = true
  /-- It has nothing to report. -/
  noError : l.probeError = none
  /-- Its program is the one that the settings name. -/
  program : h.Finds root (settings.executable l.analyzer) l.executable
  /-- Its configuration file, if it needs one, is the one that the settings name. -/
  config : l.analyzer = .flexelint ∨ l.analyzer = .pclintPlus →
    h.Locates root (h.configName settings root l.analyzer) l.configFile

/-- A linter that was switched off for a reason. -/
structure IsRefused (l : Linter) (reason : ProbeError) : Prop where
  /-- It takes no part in passes. -/
  disabled : l.enabled = false
  /-- The reason is reported. -/
  error : l.probeError = some reason
  /-- The reason is a program that is missing, or else a configuration file. -/
  cause : reason = .noExecutable l.name ∧ ¬ h.HasProgram settings root l.analyzer ∨
    reason = .noConfig l.name ∧ h.HasProgram settings root l.analyzer ∧
      h.LacksConfig settings root l.analyzer

variable {h settings root} {l : Linter}

/-- A probe has two outcomes. -/
theorem isReady_or_isRefused (hl : l ∈ h.configure settings root) :
    h.IsReady settings root l ∨ ∃ reason, h.IsRefused settings root l reason := by
  rw [configure_eq] at hl
  obtain ⟨a, hon, rfl⟩ := List.mem_map.1 hl
  have henabled : (Linter.make a settings h.environment root).enabled = true :=
    (List.mem_filter.1 hon).2
  -- A linter is probed only if it is switched on, and so it is ready if nothing goes wrong.
  rcases h.probe_cases henabled with ⟨hfind, hprobe⟩ | ⟨executable, hfind, hconfig⟩
  · refine .inr ⟨.noExecutable a.name, ?_⟩
    rw [hprobe]
    exact ⟨rfl, rfl, .inl ⟨rfl, not_exists.2 (findProgram?_eq_none_iff.1 hfind)⟩⟩
  · have hfinds : h.Finds root (settings.executable a) executable :=
      findProgram?_eq_some_iff.1 hfind
    rcases hconfig with ⟨hneeds, hprobe⟩ | ⟨hneeds, hlocate⟩
    · rw [hprobe]
      refine .inl ⟨henabled, rfl, hfinds, fun hconfig => ?_⟩
      exact absurd (hneeds.symm.trans (Analyzer.requiresConfig_iff.2 hconfig)) (by decide)
    · rcases hlocate with ⟨hlocate, hprobe⟩ | ⟨configFile, hlocate, hprobe⟩
      · refine .inr ⟨.noConfig a.name, ?_⟩
        rw [hprobe]
        exact ⟨rfl, rfl, .inr ⟨rfl, ⟨executable, hfinds⟩, Analyzer.requiresConfig_iff.1 hneeds,
          not_exists.2 (locate?_eq_none_iff.1 hlocate)⟩⟩
      · rw [hprobe]
        exact .inl ⟨henabled, rfl, hfinds, fun _ => locate?_eq_some_iff.1 hlocate⟩

/-- What is reported tells the outcomes apart. -/
theorem isRefused_of_probeError {reason : ProbeError}
    (houtcome : h.IsReady settings root l ∨ ∃ reason, h.IsRefused settings root l reason)
    (herror : l.probeError = some reason) : h.IsRefused settings root l reason := by
  rcases houtcome with hready | ⟨other, hrefused⟩
  · exact absurd (herror.symm.trans hready.noError) nofun
  · obtain rfl := Option.some.inj (herror.symm.trans hrefused.error)
    exact hrefused

/-- The program is reported missing exactly if it is. -/
theorem probeError_eq_noExecutable_iff (hl : l ∈ h.configure settings root) :
    l.probeError = some (.noExecutable l.name) ↔ ¬ h.HasProgram settings root l.analyzer := by
  rcases isReady_or_isRefused hl with hready | ⟨reason, hrefused⟩
  · rw [hready.noError]
    exact iff_of_false nofun fun hlacks => hlacks ⟨_, hready.program⟩
  · rw [hrefused.error]
    rcases hrefused.cause with ⟨rfl, hlacks⟩ | ⟨rfl, hhas, -⟩
    · exact iff_of_true rfl hlacks
    · exact iff_of_false nofun fun hlacks => hlacks hhas

/-- The configuration file is reported missing exactly if nothing else is. -/
theorem probeError_eq_noConfig_iff (hl : l ∈ h.configure settings root) :
    l.probeError = some (.noConfig l.name) ↔
      h.HasProgram settings root l.analyzer ∧ h.LacksConfig settings root l.analyzer := by
  rcases isReady_or_isRefused hl with hready | ⟨reason, hrefused⟩
  · rw [hready.noError]
    exact iff_of_false nofun fun hlacks => hlacks.2.2 ⟨_, hready.config hlacks.2.1⟩
  · rw [hrefused.error]
    rcases hrefused.cause with ⟨rfl, hlacks⟩ | ⟨rfl, hcause⟩
    · exact iff_of_false nofun fun hhas => hlacks hhas.1
    · exact iff_of_true rfl hcause

end Host

/-- A linter that is switched off starts nothing and finds nothing. -/
theorem Linter.lint_of_disabled {l : Linter} (hoff : l.enabled = false)
    (file shadow directory : String) :
    l.call? file shadow directory = none ∧
      ∀ runner, l.lint runner file shadow directory = .ok [] := by
  have hcall : l.call? file shadow directory = none := by
    unfold call?
    rw [hoff, if_neg Bool.false_ne_true]
  refine ⟨hcall, fun runner => ?_⟩
  unfold lint
  rw [hcall]

namespace Host

/-- For all hosts, settings and roots: there is one linter for each analyzer that is switched on by
both switches, in the order of the analyzers. Each has all that it needs, or is switched off for the
one thing that is missing; a program that is missing is reported even if a configuration file is
missing too. A linter that is switched off starts no process and finds nothing. -/
theorem configure_outcome (h : Host) (settings : Settings) (root : String) :
    ((h.configure settings root).map Linter.analyzer).Sublist
      [.clang, .cppCheck, .flexelint, .pclintPlus, .flawFinder, .lizard] ∧
    ((h.configure settings root).map Linter.analyzer).Nodup ∧
    (∀ a, a ∈ (h.configure settings root).map Linter.analyzer ↔
      settings.enable = true ∧ settings.isOn a = true) ∧
    ∀ l ∈ h.configure settings root,
      (h.IsReady settings root l ∨ ∃ reason, h.IsRefused settings root l reason) ∧
      (l.probeError = some (.noExecutable l.name) ↔ ¬ h.HasProgram settings root l.analyzer) ∧
      (l.probeError = some (.noConfig l.name) ↔
        h.HasProgram settings root l.analyzer ∧ h.LacksConfig settings root l.analyzer) ∧
      (l.enabled = false → ∀ file shadow directory,
        l.call? file shadow directory = none ∧
          ∀ runner, l.lint runner file shadow directory = .ok []) := by
  have hsublist : ((h.configure settings root).map Linter.analyzer).Sublist Analyzer.all := by
    rw [map_analyzer_configure]
    exact List.filter_sublist
  refine ⟨hsublist, hsublist.nodup (by decide), fun a => ?_, fun l hl => ?_⟩
  · have hall : a ∈ Analyzer.all := by cases a <;> decide
    rw [map_analyzer_configure, List.mem_filter, Bool.and_eq_true]
    exact and_iff_right hall
  · exact ⟨isReady_or_isRefused hl, probeError_eq_noExecutable_iff hl,
      probeError_eq_noConfig_iff hl, Linter.lint_of_disabled⟩

namespace Bench

/-- A program that prints nothing. -/
def tool : Node := .file .bytes (some fun _ _ => ⟨some 0, [], []⟩)

/-- A host with the programs of Flexelint and PC-lint Plus. The configuration file of the second is
where the default settings look for it. -/
def stripped : Host where
  tree := (((Tree.empty.add "/bin/flexelint" tool).add "/bin/pclp" tool).add
    "/ws/sub/.pclint/std.lnt" (.file (.text "-w3") none)).add "/ws/sub/co.lnt" (.file .locked none)
  directory := "/"
  path := some "/usr:/bin"
  extraDirectory := none
  environment := ∅

/-- The same with one more file above the root. A file with its name at the root may not be
opened. -/
def host : Host := { stripped with tree := stripped.tree.add "/ws/co.lnt" (.file .bytes none) }

/-- The default settings without FlawFinder, and with a configuration file of Flexelint that is
looked for upwards. -/
def settings : Settings :=
  { Settings.initial with
    flexelint := { FlexelintSettings.initial with configFile := "co.lnt" }
    flawfinder := { FlawFinderSettings.initial with enable := false } }

/-- The linter of an analyzer on a host, probed. -/
def linter (h : Host) (a : Analyzer) : Linter :=
  h.probe (Linter.make a settings h.environment "/ws/sub")

/-- All outcomes: a linter that is ready with a configuration file whose name holds a variable, one
with the nearest file that may be opened, one without configuration file and one without program. -/
theorem ready_and_refused :
    (host.configure settings "/ws/sub").map Linter.analyzer =
      [.clang, .cppCheck, .flexelint, .pclintPlus, .lizard] ∧
    host.IsReady settings "/ws/sub" (linter host .pclintPlus) ∧
    settings.configFile .pclintPlus = "$\x7bworkspaceRoot\x7d/.pclint/std.lnt" ∧
    (linter host .pclintPlus).configFile = "/ws/sub/.pclint/std.lnt" ∧
    host.IsReady settings "/ws/sub" (linter host .flexelint) ∧
    (linter host .flexelint).configFile = "/ws/co.lnt" ∧
    stripped.IsRefused settings "/ws/sub" (linter stripped .flexelint) (.noConfig "Flexelint") ∧
    host.IsRefused settings "/ws/sub" (linter host .clang) (.noExecutable "Clang") ∧
    ∀ runner, (linter host .clang).lint runner "/ws/a.c" "/ws/a.c" "/ws" = .ok [] := by
  obtain ⟨-, -, -, hall⟩ := configure_outcome host settings "/ws/sub"
  obtain ⟨-, -, -, hstripped⟩ := configure_outcome stripped settings "/ws/sub"
  have hmem : ∀ h : Host, ∀ a ∈ Analyzer.all, (settings.enable && settings.isOn a) = true →
      linter h a ∈ h.configure settings "/ws/sub" := by
    intro h a ha hon
    rw [configure_eq]
    exact List.mem_map_of_mem (List.mem_filter.2 ⟨ha, hon⟩)
  have hready : ∀ l ∈ host.configure settings "/ws/sub", l.probeError = none →
      host.IsReady settings "/ws/sub" l := by
    intro l hl hnone
    rcases (hall l hl).1 with hready | ⟨reason, hrefused⟩
    · exact hready
    · exact absurd (hnone.symm.trans hrefused.error) nofun
  have hflexelint : (linter stripped .flexelint).probeError = some (.noConfig "Flexelint") := by
    decide +kernel
  have hclang : (linter host .clang).probeError = some (.noExecutable "Clang") := by decide +kernel
  have hoff := hall _ (hmem host .clang (by decide) rfl)
  have hrefused : host.IsRefused settings "/ws/sub" (linter host .clang) (.noExecutable "Clang") :=
    isRefused_of_probeError hoff.1 hclang
  exact ⟨by rw [map_analyzer_configure]; rfl,
    hready _ (hmem host .pclintPlus (by decide) rfl) (by decide +kernel), rfl, by decide +kernel,
    hready _ (hmem host .flexelint (by decide) rfl) (by decide +kernel), by decide +kernel,
    isRefused_of_probeError (hstripped _ (hmem stripped .flexelint (by decide) rfl)).1 hflexelint,
    hrefused, (hoff.2.2.2 hrefused.disabled _ _ _).2⟩

end Bench

end Host

end LintRelay

import LintRelay.Linter
import LintRelay.Proofs.Expansion

/-!
# What settings put on a command line

An entry of the settings that does not expand is left out of the command line, with the flag that
would have stood in front of it. Here it is shown that such an entry acts as if it was not listed.

A command line is looked at in parts (`Argument`): a word as it stands, a flag with a value directly
behind it, or a flag and a value as two words. The values are what entries expand to
(`Linter.of_mem_parts`), so that none is empty, and the flags that need a value stand in no other
part (`Linter.exists_paired`). Entries that do not expand make no part; the settings without them
(`Settings.trimmed`) give the same command line (`Linter.commandLine_trimmed`). The language
standards are special, since an empty list of them stands for a default pair: their entries are left
out only if one of them expands.

While a document is edited, its directory is put in front of the include paths. It is expanded like
them, although it is no entry of the settings, and `Clang.quoted_directories` says what comes of it.
-/

namespace LintRelay

/-! ## Entries -/

namespace Variables

/-- What an entry expands to, if it does. -/
def expand? (vars : Variables) (entry : String) : Option String := (vars.expand entry).toOption

/-- Whether an entry expands. -/
def expands (vars : Variables) (entry : String) : Bool := (vars.expand? entry).isSome

/-- The entries that expand. -/
def kept (vars : Variables) (entries : List String) : List String := entries.filter vars.expands

/-- The language standards that expand; all of them, if none does. -/
def keptStandards (vars : Variables) (standards : List String) : List String :=
  if standards.any vars.expands then vars.kept standards else standards

variable {vars : Variables} {entry text : String}

theorem expand?_eq_some_iff : vars.expand? entry = some text ↔ vars.expand entry = .ok text := by
  unfold expand?
  cases vars.expand entry <;> simp [Except.toOption]

/-- Nothing expands to an empty text. -/
theorem ne_empty_of_expand (h : vars.expand entry = .ok text) : text ≠ "" := by
  obtain ⟨-, hne, rfl⟩ := expand_eq_ok_iff.1 h
  intro hempty
  rw [Path.slash, String.toList_ofList] at hempty
  exact hne (slashChars_eq_nil_iff.1 (String.ofList_eq_empty_iff.1 hempty))

/-- Entries that do not expand are not missed by what looks at expansions only. -/
theorem filterMap_kept (vars : Variables) (entries : List String) :
    (vars.kept entries).filterMap vars.expand? = entries.filterMap vars.expand? := by
  unfold kept
  rw [List.filterMap_filter]
  congr 1
  funext entry
  unfold expands
  cases vars.expand? entry <;> rfl

/-- A text without `$` expands to itself with slashes. -/
theorem expand?_of_not_mem (hne : entry ≠ "") (hplain : '$' ∉ entry.toList) :
    vars.expand? entry = some (Path.slash entry) := by
  have hsame : substitute vars entry.toList = entry.toList := by
    have happend : substitute vars (entry.toList ++ []) = entry.toList ++ substitute vars [] :=
      substitute_append hplain
    rw [List.append_nil] at happend
    rw [happend]
    exact List.append_nil _
  rw [expand?_eq_some_iff, expand_eq_ok_iff, hsame, String.ofList_toList]
  refine ⟨fun hopen => hplain ?_, fun hnil => hne (String.toList_eq_nil_iff.1 hnil), rfl⟩
  exact hopen.subset List.mem_cons_self

end Variables

/-! ## Parts of a command line -/

/-- A part of a command line. -/
inductive Argument where
  /-- A word as it stands. -/
  | plain (text : String)
  /-- One word: a flag with the expansion of an entry directly behind it. -/
  | joined (flag text : String)
  /-- Two words: a flag, and the expansion of an entry. -/
  | paired (flag text : String)
deriving DecidableEq, Repr

namespace Argument

/-- The words of a part. -/
def words : Argument → List String
  | plain text => [text]
  | joined flag text => [flag ++ text]
  | paired flag text => [flag, text]

/-- What stands in a part without any entry. -/
def flag : Argument → String
  | plain text => text
  | joined flag _ => flag
  | paired flag _ => flag

/-- The expansion of an entry that stands in a part. -/
def value? : Argument → Option String
  | plain _ => none
  | joined _ text => some text
  | paired _ text => some text

end Argument

namespace ArgumentGroup

/-- The parts that a group makes. -/
def parts (vars : Variables) : ArgumentGroup → List Argument
  | .fixed args => args.map .plain
  | .joined flag values => (values.filterMap vars.expand?).map (.joined flag)
  | .paired flag values => (values.filterMap vars.expand?).map (.paired flag)

/-- The entries that a group is made from. -/
def entries : ArgumentGroup → List String
  | .fixed _ => []
  | .joined _ values => values
  | .paired _ values => values

/-- The flags of a group that are not followed by a word of their own. -/
def loneFlags : ArgumentGroup → List String
  | .fixed args => args
  | .joined flag _ => [flag]
  | .paired _ _ => []

variable {vars : Variables}

/-- The words of an entry are those of its expansion, if it has one. -/
theorem expanded_eq (attach : String → List String) (value : String) :
    expanded vars attach value = ((vars.expand? value).map attach).getD [] := by
  unfold expanded Variables.expand?
  cases vars.expand value <;> rfl

/-- The words of entries, of those that expand. -/
theorem flatMap_expanded (attach : String → List String) (values : List String) :
    values.flatMap (expanded vars attach) = (values.filterMap vars.expand?).flatMap attach := by
  induction values with
  | nil => rfl
  | cons value rest ih =>
    rw [List.flatMap_cons, expanded_eq, ih]
    cases hvalue : vars.expand? value with
    | none => rw [List.filterMap_cons_none hvalue]; rfl
    | some text => rw [List.filterMap_cons_some hvalue, List.flatMap_cons]; rfl

/-- A group gives the words of its parts. -/
theorem arguments_eq (vars : Variables) (group : ArgumentGroup) :
    group.arguments vars = (group.parts vars).flatMap Argument.words := by
  cases group with
  | fixed args =>
    change args = (args.map Argument.plain).flatMap Argument.words
    rw [List.flatMap_map]
    exact (List.flatMap_singleton' args).symm
  | joined flag values =>
    change values.flatMap (expanded vars fun text => [flag ++ text]) = _
    rw [flatMap_expanded, parts, List.flatMap_map]
    rfl
  | paired flag values =>
    change values.flatMap (expanded vars fun text => [flag, text]) = _
    rw [flatMap_expanded, parts, List.flatMap_map]
    rfl

/-- The parts that are made from entries hold their expansions. -/
theorem of_mem_parts {group : ArgumentGroup} {part : Argument} (hpart : part ∈ group.parts vars)
    {text : String} (htext : part.value? = some text) :
    ∃ entry ∈ group.entries, vars.expand entry = .ok text := by
  cases group with
  | fixed args =>
    obtain ⟨word, -, rfl⟩ := List.mem_map.1 hpart
    cases htext
  | joined flag values =>
    obtain ⟨value, hvalue, rfl⟩ := List.mem_map.1 hpart
    cases htext
    obtain ⟨entry, hentry, hexpand⟩ := List.mem_filterMap.1 hvalue
    exact ⟨entry, hentry, Variables.expand?_eq_some_iff.1 hexpand⟩
  | paired flag values =>
    obtain ⟨value, hvalue, rfl⟩ := List.mem_map.1 hpart
    cases htext
    obtain ⟨entry, hentry, hexpand⟩ := List.mem_filterMap.1 hvalue
    exact ⟨entry, hentry, Variables.expand?_eq_some_iff.1 hexpand⟩

/-- A flag that is not a lone one of its group has a word of its own. -/
theorem exists_paired_of_mem_parts {group : ArgumentGroup} {part : Argument}
    (hpart : part ∈ group.parts vars) (hflag : part.flag ∉ group.loneFlags) :
    ∃ text, part = .paired part.flag text := by
  cases group with
  | fixed args =>
    obtain ⟨word, hword, rfl⟩ := List.mem_map.1 hpart
    exact absurd hword hflag
  | joined flag values =>
    obtain ⟨value, -, rfl⟩ := List.mem_map.1 hpart
    exact absurd List.mem_cons_self hflag
  | paired flag values =>
    obtain ⟨value, -, rfl⟩ := List.mem_map.1 hpart
    exact ⟨value, rfl⟩

/-! ## Entries that do not expand -/

theorem arguments_joined_kept (flag : String) (values : List String) :
    (ArgumentGroup.joined flag (vars.kept values)).arguments vars =
      (ArgumentGroup.joined flag values).arguments vars := by
  rw [arguments_eq, arguments_eq, parts, parts, Variables.filterMap_kept]

theorem arguments_paired_kept (flag : String) (values : List String) :
    (ArgumentGroup.paired flag (vars.kept values)).arguments vars =
      (ArgumentGroup.paired flag values).arguments vars := by
  rw [arguments_eq, arguments_eq, parts, parts, Variables.filterMap_kept]

/-- A value in front that is not looked at does not change this. -/
theorem arguments_paired_cons_kept (flag first : String) (values : List String) :
    (ArgumentGroup.paired flag (first :: vars.kept values)).arguments vars =
      (ArgumentGroup.paired flag (first :: values)).arguments vars := by
  rw [arguments_eq, arguments_eq, parts, parts, List.filterMap_cons, List.filterMap_cons,
    Variables.filterMap_kept]

/-- Standards that do not expand are not missed, as long as one does. -/
theorem arguments_standards_kept (configured : List String) :
    (standards (vars.keptStandards configured)).arguments vars =
      (standards configured).arguments vars := by
  unfold Variables.keptStandards
  split
  · next hany =>
    obtain ⟨entry, hentry, hexpands⟩ := List.any_eq_true.1 hany
    have hkept : vars.kept configured ≠ [] :=
      List.ne_nil_of_mem (List.mem_filter.2 ⟨hentry, hexpands⟩)
    unfold standards
    rw [if_neg hkept, if_neg (List.ne_nil_of_mem hentry), arguments_joined_kept]
  · rfl

end ArgumentGroup

/-! ## Settings without the entries that do not expand -/

/-- Options without the entries that do not expand. -/
def Options.trimmed (vars : Variables) (o : Options) : Options where
  language := o.language
  standard := vars.keptStandards o.standard
  includePaths := vars.kept o.includePaths
  defines := vars.kept o.defines
  undefines := vars.kept o.undefines

/-- Overrides without the entries that do not expand. -/
def Overrides.trimmed (vars : Variables) (o : Overrides) : Overrides where
  language := o.language
  standard := o.standard.map vars.keptStandards
  includePaths := o.includePaths.map vars.kept
  defines := o.defines.map vars.kept
  undefines := o.undefines.map vars.kept

/-- Settings without the entries that do not expand, in every list that a command line is made
from. -/
def Settings.trimmed (vars : Variables) (s : Settings) : Settings :=
  { s with
    standard := vars.keptStandards s.standard
    includePaths := vars.kept s.includePaths
    defines := vars.kept s.defines
    undefines := vars.kept s.undefines
    clang := { s.clang with
      overrides := s.clang.overrides.trimmed vars
      warnings := vars.kept s.clang.warnings
      includes := vars.kept s.clang.includes
      standardLibs := vars.kept s.clang.standardLibs
      extraArgs := vars.kept s.clang.extraArgs }
    cppcheck := { s.cppcheck with
      overrides := s.cppcheck.overrides.trimmed vars
      suppressions := vars.kept s.cppcheck.suppressions
      addons := vars.kept s.cppcheck.addons
      extraArgs := vars.kept s.cppcheck.extraArgs }
    flexelint := { s.flexelint with overrides := s.flexelint.overrides.trimmed vars }
    pclintplus := { s.pclintplus with overrides := s.pclintplus.overrides.trimmed vars }
    flawfinder := { s.flawfinder with overrides := s.flawfinder.overrides.trimmed vars }
    lizard := { s.lizard with
      overrides := s.lizard.overrides.trimmed vars
      extraArgs := vars.kept s.lizard.extraArgs } }

/-- It does not matter whether entries are left out before or after the cascade. -/
theorem Options.cascade_trimmed (vars : Variables) (shared : Options) (own : Overrides) :
    (shared.trimmed vars).cascade (own.trimmed vars) = (shared.cascade own).trimmed vars := by
  unfold cascade trimmed Overrides.trimmed
  dsimp only
  simp only [Option.getD_map]

theorem Settings.optionsFor_trimmed (vars : Variables) (s : Settings) (a : Analyzer) :
    (s.trimmed vars).optionsFor a = (s.optionsFor a).trimmed vars := by
  have hown : (s.trimmed vars).overrides a = (s.overrides a).trimmed vars := by cases a <;> rfl
  unfold optionsFor
  rw [hown]
  exact Options.cascade_trimmed vars s.options (s.overrides a)

namespace Linter

/-- The linter with the entries left out that do not expand. -/
def trimmed (l : Linter) : Linter := { l with settings := l.settings.trimmed l.vars }

/-- The parts of a command line after the program. -/
def parts (l : Linter) (file shadow : String) : List Argument :=
  (l.groups file shadow).flatMap (ArgumentGroup.parts l.vars)

variable {l : Linter} {file shadow : String}

/-- A command line is the program and the words of its parts. -/
theorem commandLine_eq (l : Linter) (file shadow : String) :
    l.commandLine file shadow =
      l.executable :: (l.parts file shadow).flatMap Argument.words := by
  unfold commandLine arguments parts
  rw [List.flatMap_assoc, funext (ArgumentGroup.arguments_eq l.vars)]

/-- Entries that do not expand are not missed on a command line of Clang. -/
theorem flatMap_clang_trimmed (vars : Variables) (s : Settings) (options : Options)
    (file target : String) :
    (Clang.groups (s.trimmed vars).clang (options.trimmed vars) s.run file target).flatMap
        (ArgumentGroup.arguments vars) =
      (Clang.groups s.clang options s.run file target).flatMap (ArgumentGroup.arguments vars) := by
  have hquote : (ArgumentGroup.paired "-iquote" (if s.run = .onType then
        Clang.directory file :: vars.kept options.includePaths else [])).arguments vars =
      (ArgumentGroup.paired "-iquote" (if s.run = .onType then
        Clang.directory file :: options.includePaths else [])).arguments vars := by
    split
    · exact ArgumentGroup.arguments_paired_cons_kept _ _ _
    · rfl
  unfold Clang.groups Settings.trimmed Options.trimmed
  simp only [List.flatMap_cons, List.flatMap_nil, hquote, ArgumentGroup.arguments_joined_kept,
    ArgumentGroup.arguments_paired_kept, ArgumentGroup.arguments_standards_kept]

/-- Entries that do not expand are not missed on a command line of CppCheck. -/
theorem flatMap_cppCheck_trimmed (vars : Variables) (s : Settings) (options : Options)
    (file : String) :
    (CppCheck.groups (s.trimmed vars).cppcheck vars (options.trimmed vars) file).flatMap
        (ArgumentGroup.arguments vars) =
      (CppCheck.groups s.cppcheck vars options file).flatMap (ArgumentGroup.arguments vars) := by
  unfold CppCheck.groups Settings.trimmed Options.trimmed
  simp only [List.flatMap_cons, List.flatMap_nil, ArgumentGroup.arguments_joined_kept,
    ArgumentGroup.arguments_paired_kept, ArgumentGroup.arguments_standards_kept]

/-- Entries that do not expand are not missed on a command line. -/
theorem commandLine_trimmed (l : Linter) (file shadow : String) :
    l.trimmed.commandLine file shadow = l.commandLine file shadow := by
  have hoptions : l.trimmed.options = l.options.trimmed l.vars :=
    Settings.optionsFor_trimmed l.vars l.settings l.analyzer
  have htarget : l.trimmed.target file shadow = l.target file shadow := rfl
  unfold commandLine arguments groups
  rw [hoptions, htarget]
  refine congrArg (l.executable :: ·) ?_
  have hanalyzer : l.trimmed.analyzer = l.analyzer := rfl
  rw [hanalyzer]
  cases l.analyzer with
  | clang => exact flatMap_clang_trimmed l.vars l.settings l.options file (l.target file shadow)
  | cppCheck => exact flatMap_cppCheck_trimmed l.vars l.settings l.options file
  | lizard =>
    change (Lizard.groups (l.settings.trimmed l.vars).lizard file).flatMap _ = _
    unfold Lizard.groups Settings.trimmed
    simp only [List.flatMap_cons, List.flatMap_nil, trimmed, ArgumentGroup.arguments_joined_kept]
  | flexelint => rfl
  | pclintPlus => rfl
  | flawFinder => rfl

/-- The values on a command line are what entries of its groups expand to. -/
theorem of_mem_parts {part : Argument} (hpart : part ∈ l.parts file shadow) {text : String}
    (htext : part.value? = some text) :
    text ≠ "" ∧ ∃ group ∈ l.groups file shadow, part ∈ group.parts l.vars ∧
      ∃ entry ∈ group.entries, l.vars.expand entry = .ok text := by
  obtain ⟨group, hgroup, hpart⟩ := List.mem_flatMap.1 hpart
  obtain ⟨entry, hentry, hexpand⟩ := ArgumentGroup.of_mem_parts hpart htext
  exact ⟨Variables.ne_empty_of_expand hexpand, group, hgroup, hpart, entry, hentry, hexpand⟩

end Linter

/-! ## Flags that need a value -/

/-- The flags that need a value as a word of its own. -/
def valueFlags : List String := ["-I", "-iquote", "-include"]

/-- A word with two dashes in front is no flag that needs a value. -/
theorem not_mem_valueFlags {word : String} (h : ['-', '-'] <+: word.toList) :
    word ∉ valueFlags := by
  intro hmem
  have hshort : ∀ flag ∈ valueFlags, ¬ ['-', '-'] <+: flag.toList := by decide
  exact hshort word hmem h

namespace ArgumentGroup

/-- No flag that needs a value stands alone in a group. -/
def IsSafe (group : ArgumentGroup) : Prop := ∀ flag ∈ group.loneFlags, flag ∉ valueFlags

instance (group : ArgumentGroup) : Decidable group.IsSafe :=
  inferInstanceAs (Decidable (∀ flag ∈ group.loneFlags, flag ∉ valueFlags))

namespace IsSafe

theorem joined {flag : String} (h : flag ∉ valueFlags) (values : List String) :
    IsSafe (.joined flag values) := by
  intro word hword
  rw [List.mem_singleton.1 hword]
  exact h

theorem paired (flag : String) (values : List String) : IsSafe (.paired flag values) :=
  fun _ hmem => absurd hmem List.not_mem_nil

theorem toggle (on : Bool) {flag : String} (h : flag ∉ valueFlags) :
    (ArgumentGroup.toggle on flag).IsSafe := by
  cases on with
  | false => exact fun _ hmem => absurd hmem List.not_mem_nil
  | true => exact joined h []

end IsSafe

end ArgumentGroup

/-- On a command line of Clang no flag that needs a value stands alone before the file. -/
theorem Clang.isSafe_groups (s : ClangSettings) (options : Options) (run : Trigger)
    (file target : String) :
    ∀ group ∈ (groups s options run file target).dropLast, group.IsSafe := by
  have hlanguage : (ArgumentGroup.fixed ["-x", options.language.name]).IsSafe := by
    cases options.language <;> decide
  simp only [groups, List.dropLast_cons_cons, List.dropLast_singleton, List.forall_mem_cons]
  exact ⟨by decide, .paired _ _, .joined (by decide) _, .toggle _ (by decide),
    .toggle _ (by decide), .joined (by decide) _, .toggle _ (by decide), .toggle _ (by decide),
    .toggle _ (by decide), .toggle _ (by decide), .paired _ _, .joined (by decide) _,
    .joined (by decide) _, .joined (by decide) _, .paired _ _, hlanguage, .joined (by decide) _,
    List.forall_mem_nil _⟩

/-- On a command line of CppCheck no flag that needs a value stands alone before the file. -/
theorem CppCheck.isSafe_groups (s : CppCheckSettings) (vars : Variables) (options : Options)
    (file : String) :
    ∀ group ∈ (groups s vars options file).dropLast, group.IsSafe := by
  have hdashes : ∀ {name : String} (rest : String), ['-', '-'] <+: name.toList →
      name ++ rest ∉ valueFlags := by
    intro name rest hname
    refine not_mem_valueFlags ?_
    rw [String.toList_append]
    exact hname.trans (List.prefix_append _ _)
  have hfirst : (ArgumentGroup.fixed ["--inline-suppr",
      "--enable=" ++ checks ++ if s.unusedFunctions then ",unusedFunction" else ""]).IsSafe := by
    refine List.forall_mem_cons.2 ⟨by decide, List.forall_mem_singleton.2 ?_⟩
    exact hdashes _ (by decide)
  have hmiddle : ∀ platform : String, (ArgumentGroup.fixed ["--language=" ++ options.language.name,
      "--platform=" ++ platform,
      "--template=\"\x7bfile\x7d  \x7bline\x7d  \x7bseverity\x7d \x7bid\x7d: \x7bmessage\x7d\""]
        ).IsSafe := by
    intro platform
    refine List.forall_mem_cons.2 ⟨hdashes _ (by decide), List.forall_mem_cons.2
      ⟨hdashes _ (by decide), List.forall_mem_singleton.2 (by decide)⟩⟩
  simp only [groups, List.dropLast_cons_cons, List.dropLast_singleton, List.forall_mem_cons]
  exact ⟨hfirst, .joined (by decide) _, .paired _ _, .joined (by decide) _, .joined (by decide) _,
    .joined (by decide) _, .joined (by decide) _, hmiddle _, .joined (by decide) _,
    .toggle _ (by decide), .toggle _ (by decide), .toggle _ (by decide), List.forall_mem_nil _⟩

namespace Linter

variable {l : Linter} {file shadow : String}

/-- A command line of Clang, CppCheck or Lizard ends with the file, and no flag that needs a value
stands alone in what is before it. -/
theorem isSafe_groups (hl : l.analyzer ∈ [Analyzer.clang, .cppCheck, .lizard])
    (file shadow : String) :
    (∃ last, (l.groups file shadow).getLast? = some (.fixed [last])) ∧
      ∀ group ∈ (l.groups file shadow).dropLast, group.IsSafe := by
  unfold groups
  simp only [List.mem_cons, List.not_mem_nil, or_false] at hl
  rcases hl with hl | hl | hl <;> rw [hl] <;> dsimp only
  · exact ⟨⟨_, rfl⟩, Clang.isSafe_groups _ _ _ _ _⟩
  · exact ⟨⟨_, rfl⟩, CppCheck.isSafe_groups _ _ _ _⟩
  · refine ⟨⟨_, rfl⟩, ?_⟩
    simp only [Lizard.groups, List.dropLast_cons_cons, List.dropLast_singleton,
      List.forall_mem_cons]
    exact ⟨by decide, .joined (by decide) _, List.forall_mem_nil _⟩

/-- A flag that needs a value is followed by one, unless it is the name of the file at the end. -/
theorem exists_paired (hl : l.analyzer ∈ [Analyzer.clang, .cppCheck, .lizard]) {part : Argument}
    (hpart : part ∈ (l.parts file shadow).dropLast) (hflag : part.flag ∈ valueFlags) :
    ∃ text, part = .paired part.flag text := by
  obtain ⟨⟨last, hlast⟩, hsafe⟩ := isSafe_groups hl file shadow
  obtain ⟨front, hfront⟩ := List.getLast?_eq_some_iff.1 hlast
  rw [hfront, List.dropLast_concat] at hsafe
  have hparts : (l.parts file shadow).dropLast = front.flatMap (ArgumentGroup.parts l.vars) := by
    unfold parts
    rw [hfront, List.flatMap_append, List.flatMap_singleton]
    exact List.dropLast_concat
  rw [hparts] at hpart
  obtain ⟨group, hgroup, hpart⟩ := List.mem_flatMap.1 hpart
  refine ArgumentGroup.exists_paired_of_mem_parts hpart fun hlone => ?_
  exact hsafe group hgroup _ hlone hflag

/-- For all linters, files and shadows: the settings without the entries that do not expand give the
same command line. The command line consists of parts, and a value in a part is not empty and is
what an entry of the part's group expands to. A part of a command line of Clang, CppCheck or Lizard
with a flag that needs a value is this flag and, directly after it, a value, unless the part is the
file at the end. -/
theorem unexpandable_entries_unlisted (l : Linter) (file shadow : String) :
    l.trimmed.commandLine file shadow = l.commandLine file shadow ∧
    l.commandLine file shadow = l.executable :: (l.parts file shadow).flatMap Argument.words ∧
    (∀ part ∈ l.parts file shadow, ∀ text, part.value? = some text →
      text ≠ "" ∧ ∃ group ∈ l.groups file shadow, part ∈ group.parts l.vars ∧
        ∃ entry ∈ group.entries, l.vars.expand entry = .ok text) ∧
    (l.analyzer ∈ [Analyzer.clang, .cppCheck, .lizard] →
      ∀ part ∈ (l.parts file shadow).dropLast, part.flag ∈ valueFlags →
        ∃ text, part.words = [part.flag, text] ∧ part.value? = some text ∧ text ≠ "") := by
  refine ⟨l.commandLine_trimmed file shadow, l.commandLine_eq file shadow,
    fun part hpart text => of_mem_parts hpart, fun hl part hpart hflag => ?_⟩
  obtain ⟨text, hpaired⟩ := exists_paired hl hpart hflag
  have hvalue : part.value? = some text := by
    rw [hpaired]
    rfl
  have hne : text ≠ "" := (of_mem_parts ((List.dropLast_sublist _).subset hpart) hvalue).1
  refine ⟨text, ?_, hvalue, hne⟩
  rw [hpaired]
  rfl

namespace Stray

/-- Clang while documents are edited, with entries among its settings that do not expand. -/
def linter : Linter where
  analyzer := .clang
  settings := { Settings.initial with
    run := .onType
    standard := ["$NONE", "c99"]
    includePaths := ["$\x7bworkspaceRoot\x7d/inc", "$NONE", "r\\s"]
    clang := { ClangSettings.initial with
      includes := ["$\x7bOPEN"]
      extraArgs := ["$NONE", "-v"] } }
  root := "/ws"
  vars := (Variables.ofWorkspace ∅ "/ws").insert "X" "sub"
  executable := "clang"
  configFile := ""
  enabled := true
  probeError := none

/-- Two of three include paths expand, and two pairs are on the command line. -/
theorem stray_entries_unlisted :
    linter.trimmed.settings.includePaths = ["$\x7bworkspaceRoot\x7d/inc", "r\\s"] ∧
    linter.trimmed.settings.standard = ["c99"] ∧
    linter.trimmed.commandLine "/ws/a.c" "/tmp/a.c" = linter.commandLine "/ws/a.c" "/tmp/a.c" ∧
    (linter.parts "/ws/a.c" "/tmp/a.c").filter (fun part => part.flag ∈ valueFlags) =
      [.paired "-iquote" "/ws", .paired "-iquote" "/ws/inc", .paired "-iquote" "r/s",
        .paired "-I" "/ws/inc", .paired "-I" "r/s"] ∧
    ∃ text, (Argument.paired "-I" "r/s").words = ["-I", text] ∧ text ≠ "" := by
  obtain ⟨hsame, -, -, hpairs⟩ := unexpandable_entries_unlisted linter "/ws/a.c" "/tmp/a.c"
  have hpart : Argument.paired "-I" "r/s" ∈ (linter.parts "/ws/a.c" "/tmp/a.c").dropLast := by
    decide +kernel
  obtain ⟨text, hwords, -, hne⟩ := hpairs (by decide) _ hpart (by decide)
  exact ⟨by decide +kernel, by decide +kernel, hsame, by decide +kernel, text, hwords, hne⟩

end Stray

end Linter

/-! ## The directory of an edited document -/

namespace Clang

/-- The values of the `-iquote` pairs that stand in front. -/
def quotes : List String → List String
  | flag :: value :: rest => if flag = "-iquote" then value :: quotes rest else []
  | _ => []

theorem quotes_append (values rest : List String) :
    quotes (values.flatMap (fun value => ["-iquote", value]) ++ rest) = values ++ quotes rest := by
  induction values with
  | nil => rfl
  | cons value values ih =>
    have hpair : quotes ("-iquote" :: value ::
        (values.flatMap (fun value => ["-iquote", value]) ++ rest)) =
      value :: quotes (values.flatMap (fun value => ["-iquote", value]) ++ rest) := if_pos rfl
    rw [List.cons_append, ← ih, ← hpair]
    rfl

theorem quotes_of_head? {args : List String} (h : args.head? ≠ some "-iquote") :
    quotes args = [] := by
  unfold quotes
  split
  · next flag value rest =>
    rw [if_neg]
    rintro rfl
    exact h rfl
  · rfl

/-- A flag that is not the beginning of `-iquote`. -/
abbrev Diverges (flag : String) : Prop := ¬ flag.toList <+: "-iquote".toList

section Opening

variable {vars : Variables} {flag : String}

theorem Diverges.append_ne (h : Diverges flag) (text : String) : flag ++ text ≠ "-iquote" := by
  intro heq
  have hbegins : flag.toList <+: (flag ++ text).toList := by
    rw [String.toList_append]
    exact List.prefix_append _ _
  exact h (heq ▸ hbegins)

theorem Diverges.ne (h : Diverges flag) : flag ≠ "-iquote" := by
  rintro rfl
  exact h (List.prefix_refl _)

/-- A group does not open with `-iquote`. -/
def OpensElse (vars : Variables) (group : ArgumentGroup) : Prop :=
  (group.arguments vars).head? ≠ some "-iquote"

theorem Diverges.joined (h : Diverges flag) (values : List String) :
    OpensElse vars (.joined flag values) := by
  unfold OpensElse
  rw [ArgumentGroup.arguments_eq, ArgumentGroup.parts]
  cases values.filterMap vars.expand? with
  | nil => nofun
  | cons text texts => exact fun heq => h.append_ne text (Option.some.inj heq)

theorem Diverges.paired (h : Diverges flag) (values : List String) :
    OpensElse vars (.paired flag values) := by
  unfold OpensElse
  rw [ArgumentGroup.arguments_eq, ArgumentGroup.parts]
  cases values.filterMap vars.expand? with
  | nil => nofun
  | cons text texts => exact fun heq => h.ne (Option.some.inj heq)

theorem Diverges.toggle (h : Diverges flag) (on : Bool) : OpensElse vars (.toggle on flag) := by
  cases on with
  | false => nofun
  | true => exact fun heq => h.ne (Option.some.inj heq)

/-- Groups that do not open with `-iquote` are no pairs. -/
theorem head?_flatMap_ne {groups : List ArgumentGroup}
    (hgroups : ∀ group ∈ groups, OpensElse vars group) {rest : List String}
    (hrest : rest.head? ≠ some "-iquote") :
    (groups.flatMap (ArgumentGroup.arguments vars) ++ rest).head? ≠ some "-iquote" := by
  induction groups with
  | nil => exact hrest
  | cons group groups ih =>
    obtain ⟨hgroup, hgroups⟩ := List.forall_mem_cons.1 hgroups
    unfold OpensElse at hgroup
    rw [List.flatMap_cons, List.append_assoc]
    cases hargs : group.arguments vars with
    | nil => exact ih hgroups
    | cons word words =>
      rw [hargs] at hgroup
      exact hgroup

end Opening

/-- A directory is never written as nothing. -/
theorem directory_ne_empty (file : String) : directory file ≠ "" := by
  unfold directory
  dsimp only
  split
  · decide
  · next separator _ => exact fun hempty => by simp at hempty
  · next first rest hsingle habove =>
    -- A single separator is the case before.
    have hrest : rest ≠ [] := by
      rintro rfl
      exact hsingle rfl
    intro hempty
    rw [String.ofList_eq_empty_iff, List.reverse_eq_nil_iff] at hempty
    exact hrest hempty

/-- The words after the pairs do not open with another. -/
theorem head?_others_ne (vars : Variables) (s : ClangSettings) (options : Options) (run : Trigger)
    (file target : String) :
    (((groups s options run file target).drop 2).flatMap (ArgumentGroup.arguments vars)).head? ≠
      some "-iquote" := by
  -- Of these groups only the language is sure to be there, and so those after it do not matter.
  have hsplit : (groups s options run file target).drop 2 =
      ((groups s options run file target).drop 2).take 13 ++
        .fixed ["-x", options.language.name] :: (groups s options run file target).drop 16 := rfl
  rw [hsplit, List.flatMap_append]
  have hlanguage : "-x" ≠ "-iquote" := by decide
  refine head?_flatMap_ne ?_ fun heq => hlanguage (Option.some.inj heq)
  simp only [groups, List.drop_succ_cons, List.drop_zero, List.take_succ_cons, List.take_zero,
    List.forall_mem_cons]
  exact ⟨Diverges.joined (by decide) _, Diverges.toggle (by decide) _,
    Diverges.toggle (by decide) _, Diverges.joined (by decide) _, Diverges.toggle (by decide) _,
    Diverges.toggle (by decide) _, Diverges.toggle (by decide) _, Diverges.toggle (by decide) _,
    Diverges.paired (by decide) _, Diverges.joined (by decide) _, Diverges.joined (by decide) _,
    Diverges.joined (by decide) _, Diverges.paired (by decide) _, List.forall_mem_nil _⟩

/-- The command line of Clang for an edited document. -/
theorem exists_commandLine_eq {l : Linter} (hl : l.analyzer = .clang)
    (hrun : l.settings.run = .onType) (file shadow : String) :
    ∃ rest, l.commandLine file shadow = l.executable :: (flags ++ rest) ∧
      quotes rest = (l.vars.expand? (directory file)).toList ++
        l.options.includePaths.filterMap l.vars.expand? := by
  have hquote : (ArgumentGroup.paired "-iquote"
      (directory file :: l.options.includePaths)).arguments l.vars =
        ((l.vars.expand? (directory file)).toList ++
          l.options.includePaths.filterMap l.vars.expand?).flatMap
            fun value => ["-iquote", value] := by
    rw [ArgumentGroup.arguments_eq, ArgumentGroup.parts, List.flatMap_map, List.filterMap_cons]
    cases l.vars.expand? (directory file) <;> rfl
  have hgroups : l.groups file shadow = .fixed flags ::
      .paired "-iquote" (directory file :: l.options.includePaths) ::
        (l.groups file shadow).drop 2 := by
    unfold Linter.groups
    rw [hl]
    dsimp only
    unfold groups
    rw [if_pos hrun]
    rfl
  have hothers : (((l.groups file shadow).drop 2).flatMap
      (ArgumentGroup.arguments l.vars)).head? ≠ some "-iquote" := by
    unfold Linter.groups
    rw [hl]
    exact head?_others_ne _ _ _ _ _ _
  unfold Linter.commandLine Linter.arguments
  rw [hgroups, List.flatMap_cons, List.flatMap_cons, hquote]
  refine ⟨_, rfl, ?_⟩
  rw [quotes_append, quotes_of_head? hothers, List.append_nil]

/-- For all linters of Clang that run while a document is edited, all files and all shadows: after
its fixed flags the command line has one `-iquote` pair for the directory of the file, if the
directory expands, and then one for each include path that expands, in order. The first pair holds
the directory with slashes exactly if no opening brace is left in the directory when its references
are replaced, and what they are replaced by leaves the directory as it was. So it does if there is
no `$` in the directory. -/
theorem quoted_directories {l : Linter} (hl : l.analyzer = .clang)
    (hrun : l.settings.run = .onType) (file shadow : String) :
    ∃ rest, l.commandLine file shadow = l.executable :: (flags ++ rest) ∧ "-iquote" ∉ flags ∧
      quotes rest = (l.vars.expand? (directory file)).toList ++
        l.options.includePaths.filterMap l.vars.expand? ∧
      (quotes rest = Path.slash (directory file) ::
          l.options.includePaths.filterMap l.vars.expand? ↔
        ¬ ['$', '{'] <:+: l.vars.substitute (directory file).toList ∧
        Path.slash (String.ofList (l.vars.substitute (directory file).toList)) =
          Path.slash (directory file)) ∧
      ('$' ∉ (directory file).toList → quotes rest = Path.slash (directory file) ::
        l.options.includePaths.filterMap l.vars.expand?) := by
  obtain ⟨rest, hline, hquotes⟩ := exists_commandLine_eq hl hrun file shadow
  have hfirst : quotes rest = Path.slash (directory file) ::
      l.options.includePaths.filterMap l.vars.expand? ↔
        l.vars.expand? (directory file) = some (Path.slash (directory file)) := by
    rw [hquotes, ← List.singleton_append, List.append_left_inj]
    cases l.vars.expand? (directory file) <;> simp
  refine ⟨rest, hline, by decide, hquotes, ?_, fun hplain => ?_⟩
  · rw [hfirst, Variables.expand?_eq_some_iff, Variables.expand_eq_ok_iff]
    refine and_congr_right fun _ => ⟨fun h => h.2.symm, fun h => ⟨fun hnil => ?_, h.symm⟩⟩
    -- Of a directory something is left, since it is not empty itself.
    rw [hnil] at h
    have hempty : Path.slashChars (directory file).toList = [] :=
      (String.ofList_injective h).symm
    exact directory_ne_empty file (String.toList_eq_nil_iff.1
      (Variables.slashChars_eq_nil_iff.1 hempty))
  · exact hfirst.2 (Variables.expand?_of_not_mem (directory_ne_empty file) hplain)

/-- A directory whose name looks like a reference is replaced, and one that has an opening brace in
its name is left out. -/
theorem directory_taken_for_reference :
    (∃ rest, Linter.Stray.linter.commandLine "/ws/$X/a.c" "/tmp/a.c" =
        "clang" :: (flags ++ rest) ∧ quotes rest = ["/ws/sub", "/ws/inc", "r/s"] ∧
      quotes rest ≠ ["/ws/$X", "/ws/inc", "r/s"]) ∧
    ∃ rest, Linter.Stray.linter.commandLine "/ws/$\x7bX/a.c" "/tmp/a.c" =
        "clang" :: (flags ++ rest) ∧ quotes rest = ["/ws/inc", "r/s"] := by
  constructor
  · obtain ⟨rest, hline, -, hquotes, -⟩ := quoted_directories (l := Linter.Stray.linter) rfl rfl
      "/ws/$X/a.c" "/tmp/a.c"
    have hvalues : quotes rest = ["/ws/sub", "/ws/inc", "r/s"] := by
      rw [hquotes]
      decide +kernel
    refine ⟨rest, hline, hvalues, ?_⟩
    rw [hvalues]
    decide
  · obtain ⟨rest, hline, -, hquotes, -⟩ := quoted_directories (l := Linter.Stray.linter) rfl rfl
      "/ws/$\x7bX/a.c" "/tmp/a.c"
    refine ⟨rest, hline, ?_⟩
    rw [hquotes]
    decide +kernel

end Clang

end LintRelay

import LintRelay.Settings
import LintRelay.Settings.Field
import LintRelay.Json.Relaxed

/-!
# Settings in writing

`Settings.toJson` writes settings as an object with every field, and `Settings.ofJson` reads them
back: what is missing has its default, and unknown entries count for nothing. Settings may be
wrapped in an object under `sectionName`, as editors send them.
-/

namespace LintRelay

/-- The name under which editors keep the settings. -/
def sectionName : String := "c-cpp-flylint"

/-- Triggers, by name. -/
def Codec.trigger : Codec Trigger :=
  .word Trigger.name [.onSave, .onType, .onBuild] fun
    | .null => true
    | _ => false

/-- Languages, by name. -/
def Codec.language : Codec Language :=
  .word Language.name [.c, .cpp] fun
    | .null => true
    | _ => false

/-- Languages in the block of an analyzer, where an object under the word may be empty. -/
def Codec.ownLanguage : Codec Language :=
  .word Language.name [.c, .cpp] fun
    | .null => true
    | .object [] => true
    | _ => false

/-- The entries that override shared options. -/
def Overrides.fields : List (Field Overrides) :=
  [.optional "language" .ownLanguage (·.language) fun v s => { s with language := v },
    .optional "standard" .texts (·.standard) fun v s => { s with standard := v },
    .optional "includePaths" .texts (·.includePaths) fun v s => { s with includePaths := v },
    .optional "defines" .texts (·.defines) fun v s => { s with defines := v },
    .optional "undefines" .texts (·.undefines) fun v s => { s with undefines := v }]

/-- The layout of an analyzer's block: its entries before the overrides, the place of the overrides
in it, and its entries after them. -/
structure BlockLayout (σ : Type) where
  /-- The entries before the overrides. -/
  before : List (Field σ)
  /-- The overrides of a block. -/
  overrides : σ → Overrides
  /-- A block with other overrides. -/
  setOverrides : Overrides → σ → σ
  /-- The entries after the overrides. -/
  after : List (Field σ)
  /-- The block in which nothing is set. -/
  initial : σ

namespace BlockLayout

variable {σ : Type} (layout : BlockLayout σ)

/-- The entries of the block that are its own. -/
def own : List (Field σ) := layout.before ++ layout.after

/-- The entries of the block that override shared options. -/
def shared : List (Field σ) :=
  Overrides.fields.map (Field.inside layout.overrides layout.setOverrides)

/-- Blocks are objects. Their own entries are read first, and then the overrides. -/
def codec : Codec σ where
  encode s := .object (Field.encodeAll (layout.before ++ layout.shared ++ layout.after) s)
  decode
    | .object fields => do
      let s ← Field.decodeAll layout.own fields layout.initial
      Field.decodeAll layout.shared fields s
    | _ => .error .illTyped

end BlockLayout

/-- The block of Clang. -/
def ClangSettings.layout : BlockLayout ClangSettings where
  before :=
    [.plain "enable" .bool (·.enable) fun v s => { s with enable := v },
      .plain "executable" .text (·.executable) fun v s => { s with executable := v },
      .plain "configFile" .text (·.configFile) fun v s => { s with configFile := v },
      .plain "severityLevels" (.table .severity) (·.severityLevels)
        fun v s => { s with severityLevels := v }]
  overrides := (·.overrides)
  setOverrides v s := { s with overrides := v }
  after :=
    [.plain "warnings" .texts (·.warnings) fun v s => { s with warnings := v },
      .plain "pedantic" .bool (·.pedantic) fun v s => { s with pedantic := v },
      .plain "pedanticErrors" .bool (·.pedanticErrors) fun v s => { s with pedanticErrors := v },
      .plain "msExtensions" .bool (·.msExtensions) fun v s => { s with msExtensions := v },
      .plain "noExceptions" .bool (·.noExceptions) fun v s => { s with noExceptions := v },
      .plain "noRtti" .bool (·.noRtti) fun v s => { s with noRtti := v },
      .plain "blocks" .bool (·.blocks) fun v s => { s with blocks := v },
      .plain "includes" .texts (·.includes) fun v s => { s with includes := v },
      .plain "standardLibs" .texts (·.standardLibs) fun v s => { s with standardLibs := v },
      .plain "extraArgs" .texts (·.extraArgs) fun v s => { s with extraArgs := v }]
  initial := .initial

/-- The block of CppCheck. -/
def CppCheckSettings.layout : BlockLayout CppCheckSettings where
  before :=
    [.plain "enable" .bool (·.enable) fun v s => { s with enable := v },
      .plain "executable" .text (·.executable) fun v s => { s with executable := v },
      .plain "configFile" .text (·.configFile) fun v s => { s with configFile := v },
      .plain "severityLevels" (.table .severity) (·.severityLevels)
        fun v s => { s with severityLevels := v }]
  overrides := (·.overrides)
  setOverrides v s := { s with overrides := v }
  after :=
    [.plain "unusedFunctions" .bool (·.unusedFunctions)
        fun v s => { s with unusedFunctions := v },
      .plain "verbose" .bool (·.verbose) fun v s => { s with verbose := v },
      .plain "force" .bool (·.force) fun v s => { s with force := v },
      .plain "inconclusive" .bool (·.inconclusive) fun v s => { s with inconclusive := v },
      .plain "platform" .text (·.platform) fun v s => { s with platform := v },
      .plain "suppressions" .texts (·.suppressions) fun v s => { s with suppressions := v },
      .plain "addons" .texts (·.addons) fun v s => { s with addons := v },
      .plain "extraArgs" .texts (·.extraArgs) fun v s => { s with extraArgs := v }]
  initial := .initial

/-- The block of Flexelint. -/
def FlexelintSettings.layout : BlockLayout FlexelintSettings where
  before :=
    [.plain "enable" .bool (·.enable) fun v s => { s with enable := v },
      .plain "executable" .text (·.executable) fun v s => { s with executable := v },
      .plain "configFile" .text (·.configFile) fun v s => { s with configFile := v },
      .plain "severityLevels" (.table .severity) (·.severityLevels)
        fun v s => { s with severityLevels := v }]
  overrides := (·.overrides)
  setOverrides v s := { s with overrides := v }
  after :=
    [.plain "headerArgs" .textOrTexts (·.headerArgs) fun v s => { s with headerArgs := v }]
  initial := .initial

/-- The block of PC-lint Plus. -/
def PclintPlusSettings.layout : BlockLayout PclintPlusSettings where
  before :=
    [.plain "enable" .bool (·.enable) fun v s => { s with enable := v },
      .plain "executable" .text (·.executable) fun v s => { s with executable := v },
      .plain "configFile" .text (·.configFile) fun v s => { s with configFile := v },
      .plain "severityLevels" (.table .severity) (·.severityLevels)
        fun v s => { s with severityLevels := v }]
  overrides := (·.overrides)
  setOverrides v s := { s with overrides := v }
  after :=
    [.plain "headerArgs" .textOrTexts (·.headerArgs) fun v s => { s with headerArgs := v }]
  initial := .initial

/-- The block of FlawFinder. -/
def FlawFinderSettings.layout : BlockLayout FlawFinderSettings where
  before :=
    [.plain "enable" .bool (·.enable) fun v s => { s with enable := v },
      .plain "executable" .text (·.executable) fun v s => { s with executable := v },
      .plain "severityLevels" (.table .severity) (·.severityLevels)
        fun v s => { s with severityLevels := v }]
  overrides := (·.overrides)
  setOverrides v s := { s with overrides := v }
  after := []
  initial := .initial

/-- The block of Lizard. -/
def LizardSettings.layout : BlockLayout LizardSettings where
  before :=
    [.plain "enable" .bool (·.enable) fun v s => { s with enable := v },
      .plain "executable" .text (·.executable) fun v s => { s with executable := v }]
  overrides := (·.overrides)
  setOverrides v s := { s with overrides := v }
  after := [.plain "extraArgs" .texts (·.extraArgs) fun v s => { s with extraArgs := v }]
  initial := .initial

namespace Settings

/-- The entries of the settings. -/
def fields : List (Field Settings) :=
  [.plain "enable" .bool (·.enable) fun v s => { s with enable := v },
    .plain "debug" .bool (·.debug) fun v s => { s with debug := v },
    .plain "run" .trigger (·.run) fun v s => { s with run := v },
    .plain "ignoreParseErrors" .bool (·.ignoreParseErrors)
      fun v s => { s with ignoreParseErrors := v },
    .plain "excludeFromWorkspacePaths" .texts (·.excludeFromWorkspacePaths)
      fun v s => { s with excludeFromWorkspacePaths := v },
    .plain "standard" .texts (·.standard) fun v s => { s with standard := v },
    .plain "includePaths" .texts (·.includePaths) fun v s => { s with includePaths := v },
    .plain "defines" .texts (·.defines) fun v s => { s with defines := v },
    .plain "undefines" .texts (·.undefines) fun v s => { s with undefines := v },
    .plain "language" .language (·.language) fun v s => { s with language := v },
    .plain "clang" ClangSettings.layout.codec (·.clang) fun v s => { s with clang := v },
    .plain "cppcheck" CppCheckSettings.layout.codec (·.cppcheck)
      fun v s => { s with cppcheck := v },
    .plain "flexelint" FlexelintSettings.layout.codec (·.flexelint)
      fun v s => { s with flexelint := v },
    .plain "pclintplus" PclintPlusSettings.layout.codec (·.pclintplus)
      fun v s => { s with pclintplus := v },
    .plain "flawfinder" FlawFinderSettings.layout.codec (·.flawfinder)
      fun v s => { s with flawfinder := v },
    .plain "lizard" LizardSettings.layout.codec (·.lizard) fun v s => { s with lizard := v }]

/-- The settings as an object. -/
def toJson (s : Settings) : Json := .object (Field.encodeAll fields s)

/-- Settings without wrapping: an object, an array of the fields in order, or `null` for the
defaults. -/
def ofBareJson : Json → Except SettingsError Settings
  | .null => .ok .initial
  | .object entries => Field.decodeAll fields entries .initial
  | .array items => Field.decodeItems fields items .initial
  | _ => .error .illTyped

/-- Settings from a value, which may be wrapped once under `sectionName`. -/
def ofJson (json : Json) : Except SettingsError Settings :=
  ofBareJson ((json.field? sectionName).getD json)

/-- Settings from relaxed JSON text; a text without value gives the defaults. -/
def ofText (text : String) : Except SettingsError Settings :=
  match Json.Relaxed.read text with
  | .malformed => .error .malformed
  | .blank => .ok .initial
  | .value json => ofJson json

end Settings

end LintRelay

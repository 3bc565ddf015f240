import LintRelay.Proofs.Settings.Codec

/-!
# Settings with entries cut out

Written settings from which some entries were deleted, at the top or inside the block of an
analyzer, are read as the settings with just those fields at their defaults
(`Settings.ofJson_prune`).

What a field is called is said here once more, beside the layouts: `gather` takes the field of each
name from the structure given for that name. A layout is then right if each of its fields reads what
it writes and touches the field of its own name only (`BlockLayout.Gathers`), and reading is a run
that moves one name after the other from the defaults to what was written
(`Field.decodeAll_gather`).
-/

namespace LintRelay

/-! ## The names of fields -/

/-- The overrides that take the field of each name from those given for the name. -/
def Overrides.gather (source : String → Overrides) : Overrides where
  language := (source "language").language
  standard := (source "standard").standard
  includePaths := (source "includePaths").includePaths
  defines := (source "defines").defines
  undefines := (source "undefines").undefines

/-- The block of Clang, field by field. -/
def ClangSettings.gather (source : String → ClangSettings) : ClangSettings where
  enable := (source "enable").enable
  executable := (source "executable").executable
  configFile := (source "configFile").configFile
  severityLevels := (source "severityLevels").severityLevels
  overrides := .gather fun name => (source name).overrides
  warnings := (source "warnings").warnings
  pedantic := (source "pedantic").pedantic
  pedanticErrors := (source "pedanticErrors").pedanticErrors
  msExtensions := (source "msExtensions").msExtensions
  noExceptions := (source "noExceptions").noExceptions
  noRtti := (source "noRtti").noRtti
  blocks := (source "blocks").blocks
  includes := (source "includes").includes
  standardLibs := (source "standardLibs").standardLibs
  extraArgs := (source "extraArgs").extraArgs

/-- The block of CppCheck, field by field. -/
def CppCheckSettings.gather (source : String → CppCheckSettings) : CppCheckSettings where
  enable := (source "enable").enable
  executable := (source "executable").executable
  configFile := (source "configFile").configFile
  severityLevels := (source "severityLevels").severityLevels
  overrides := .gather fun name => (source name).overrides
  unusedFunctions := (source "unusedFunctions").unusedFunctions
  verbose := (source "verbose").verbose
  force := (source "force").force
  inconclusive := (source "inconclusive").inconclusive
  platform := (source "platform").platform
  suppressions := (source "suppressions").suppressions
  addons := (source "addons").addons
  extraArgs := (source "extraArgs").extraArgs

/-- The block of Flexelint, field by field. -/
def FlexelintSettings.gather (source : String → FlexelintSettings) : FlexelintSettings where
  enable := (source "enable").enable
  executable := (source "executable").executable
  configFile := (source "configFile").configFile
  severityLevels := (source "severityLevels").severityLevels
  overrides := .gather fun name => (source name).overrides
  headerArgs := (source "headerArgs").headerArgs

/-- The block of PC-lint Plus, field by field. -/
def PclintPlusSettings.gather (source : String → PclintPlusSettings) : PclintPlusSettings where
  enable := (source "enable").enable
  executable := (source "executable").executable
  configFile := (source "configFile").configFile
  severityLevels := (source "severityLevels").severityLevels
  overrides := .gather fun name => (source name).overrides
  headerArgs := (source "headerArgs").headerArgs

/-- The block of FlawFinder, field by field. -/
def FlawFinderSettings.gather (source : String → FlawFinderSettings) : FlawFinderSettings where
  enable := (source "enable").enable
  executable := (source "executable").executable
  severityLevels := (source "severityLevels").severityLevels
  overrides := .gather fun name => (source name).overrides

/-- The block of Lizard, field by field. -/
def LizardSettings.gather (source : String → LizardSettings) : LizardSettings where
  enable := (source "enable").enable
  executable := (source "executable").executable
  overrides := .gather fun name => (source name).overrides
  extraArgs := (source "extraArgs").extraArgs

/-- The settings, field by field. -/
def Settings.gather (source : String → Settings) : Settings where
  enable := (source "enable").enable
  debug := (source "debug").debug
  run := (source "run").run
  ignoreParseErrors := (source "ignoreParseErrors").ignoreParseErrors
  excludeFromWorkspacePaths := (source "excludeFromWorkspacePaths").excludeFromWorkspacePaths
  standard := (source "standard").standard
  includePaths := (source "includePaths").includePaths
  defines := (source "defines").defines
  undefines := (source "undefines").undefines
  language := (source "language").language
  clang := (source "clang").clang
  cppcheck := (source "cppcheck").cppcheck
  flexelint := (source "flexelint").flexelint
  pclintplus := (source "pclintplus").pclintplus
  flawfinder := (source "flawfinder").flawfinder
  lizard := (source "lizard").lizard

/-! ## Cutting entries out -/

/-- A value without the entries that `drop` names, if it is an object. -/
def Json.without (drop : String → Bool) : Json → Json
  | .object entries => .object (entries.filter fun e => !drop e.1)
  | json => json

/-- The names that remain are those that were there and are not dropped. -/
theorem Json.mem_keys_filter {drop : String → Bool} {entries : List (String × Json)}
    {name : String} : name ∈ (entries.filter fun e => !drop e.1).map Prod.fst ↔
      drop name = false ∧ name ∈ entries.map Prod.fst := by
  have hfilter : (entries.map Prod.fst).filter (fun name => !drop name) =
      (entries.filter fun e => !drop e.1).map Prod.fst := List.filter_map
  rw [← hfilter, List.mem_filter, Bool.not_eq_true', and_comm]

/-- A structure in which the fields that `drop` names are those of `initial`. -/
def reset {σ : Type} (gather : (String → σ) → σ) (initial : σ) (drop : String → Bool) (s : σ) : σ :=
  gather fun name => if drop name then initial else s

namespace Settings

/-- A choice of entries of written settings. -/
structure Cut where
  /-- The entries at the top, by name. -/
  top : String → Bool
  /-- The entries inside the block of a name. -/
  inside : String → String → Bool

/-- The cut that takes nothing out. -/
def Cut.none : Cut := ⟨fun _ => false, fun _ _ => false⟩

/-- Written settings without the chosen entries. -/
def Cut.prune (cut : Cut) : Json → Json
  | .object entries => .object ((entries.filter fun e => !cut.top e.1).map fun e =>
      (e.1, e.2.without (cut.inside e.1)))
  | json => json

/-- The settings with the chosen fields of their blocks at the defaults. -/
def resetBlocks (cut : Cut) (s : Settings) : Settings :=
  { s with
    clang := reset .gather .initial (cut.inside "clang") s.clang
    cppcheck := reset .gather .initial (cut.inside "cppcheck") s.cppcheck
    flexelint := reset .gather .initial (cut.inside "flexelint") s.flexelint
    pclintplus := reset .gather .initial (cut.inside "pclintplus") s.pclintplus
    flawfinder := reset .gather .initial (cut.inside "flawfinder") s.flawfinder
    lizard := reset .gather .initial (cut.inside "lizard") s.lizard }

/-- The settings with the chosen fields at the defaults. -/
def without (cut : Cut) (s : Settings) : Settings :=
  reset gather initial cut.top (s.resetBlocks cut)

end Settings

/-! ## Blocks -/

/-- Overrides belong to their names. -/
theorem Overrides.fits_fields :
    ∀ field ∈ Overrides.fields, field.Fits Overrides.gather Overrides.none := by
  have hlanguage : ∀ a, Codec.ownLanguage.decode .null ≠ .ok a := by
    intro a h
    cases h
  have htexts : ∀ a, Codec.texts.decode .null ≠ .ok a := by
    intro a h
    cases h
  simp only [fields, List.forall_mem_cons, List.not_mem_nil, false_implies, implies_true, and_true]
  refine ⟨Field.fits_optional rfl hlanguage ?_, Field.fits_optional rfl htexts ?_,
    Field.fits_optional rfl htexts ?_, Field.fits_optional rfl htexts ?_,
    Field.fits_optional rfl htexts ?_⟩ <;> simp [gather]

/-- Only the names of overrides count. -/
theorem Overrides.gather_congr {a b : String → Overrides}
    (h : ∀ name ∈ Overrides.fields.map Field.key, a name = b name) : gather a = gather b := by
  simp only [fields, List.map_cons, List.forall_mem_cons, Field.optional] at h
  simp only [gather, h]

namespace BlockLayout

variable {σ : Type} {layout : BlockLayout σ} {gather : (String → σ) → σ}

/-- All entries of the block, as they are written. -/
def all (layout : BlockLayout σ) : List (Field σ) := layout.before ++ layout.shared ++ layout.after

/-- The layout of a block is right if it gives every field its name. -/
structure Gathers (layout : BlockLayout σ) (gather : (String → σ) → σ) : Prop where
  /-- The block's own fields belong to their names. -/
  fits : ∀ field ∈ layout.own, field.Fits gather layout.initial
  /-- But for the overrides, only the names of these fields count. -/
  place : ∀ a b : String → σ, (∀ name ∈ layout.own.map Field.key, a name = b name) →
    layout.setOverrides (layout.overrides (gather b)) (gather a) = gather b
  /-- The overrides are gathered like the block. -/
  overrides : ∀ source, layout.overrides (gather source) = .gather (layout.overrides ∘ source) := by
    exact fun _ => rfl
  /-- No override is set in the beginning. -/
  initial : layout.overrides layout.initial = .none := by rfl
  /-- What is gathered from one block is that block. -/
  const : ∀ s, gather (fun _ => s) = s := by exact fun _ => rfl
  /-- No two fields have one name. -/
  nodup : (layout.all.map Field.key).Nodup := by decide +kernel

/-- The names of overrides are the same in every block. -/
theorem keys_shared : layout.shared.map Field.key = Overrides.fields.map Field.key := by
  unfold shared
  rw [List.map_map]
  rfl

/-- A field of a block is its own or an override. -/
theorem mem_all {field : Field σ} :
    field ∈ layout.all ↔ field ∈ layout.own ∨ field ∈ layout.shared := by
  unfold all own
  simp only [List.mem_append]
  exact or_right_comm

namespace Gathers

variable (h : layout.Gathers gather)

include h

/-- No override has the name of a field of the block's own. -/
theorem ne_of_mem_own {name other : String} (hname : name ∈ layout.own.map Field.key)
    (hother : other ∈ Overrides.fields.map Field.key) : name ≠ other := by
  have hnodup := h.nodup
  unfold all at hnodup
  rw [List.map_append, List.map_append, keys_shared, List.nodup_append, List.nodup_append] at hnodup
  obtain ⟨⟨-, -, hbefore⟩, -, hafter⟩ := hnodup
  unfold own at hname
  rw [List.map_append, List.mem_append] at hname
  rcases hname with hname | hname
  · exact hbefore name hname other hother
  · exact (hafter other (List.mem_append_right _ hother) name hname).symm

/-- Only the names of fields count. -/
theorem congr {a b : String → σ} (hab : ∀ name ∈ layout.all.map Field.key, a name = b name) :
    gather a = gather b := by
  have hown : ∀ name ∈ layout.own.map Field.key, a name = b name := by
    intro name hname
    obtain ⟨field, hfield, rfl⟩ := List.mem_map.1 hname
    exact hab _ (List.mem_map_of_mem (mem_all.2 (.inl hfield)))
  have hshared : ∀ name ∈ Overrides.fields.map Field.key, a name = b name := by
    intro name hname
    rw [← @keys_shared _ layout] at hname
    obtain ⟨field, hfield, rfl⟩ := List.mem_map.1 hname
    exact hab _ (List.mem_map_of_mem (mem_all.2 (.inr hfield)))
  have hoverrides : layout.overrides (gather a) = layout.overrides (gather b) := by
    rw [h.overrides, h.overrides]
    exact Overrides.gather_congr fun name hname => congrArg layout.overrides (hshared name hname)
  rw [← h.place a b hown, ← hoverrides]
  exact (h.place a a fun _ _ => rfl).symm

/-- All fields of the block belong to their names. -/
theorem fits_all : ∀ field ∈ layout.all, field.Fits gather layout.initial := by
  intro field hfield
  rcases mem_all.1 hfield with hown | hshared
  · exact h.fits field hown
  · obtain ⟨inner, hinner, rfl⟩ := List.mem_map.1 hshared
    have hinitial : inner.Fits .gather (layout.overrides layout.initial) := by
      rw [h.initial]
      exact Overrides.fits_fields inner hinner
    refine Field.fits_inside hinitial h.overrides fun source s => h.place _ _ fun name hname => ?_
    rw [Function.update_of_ne (h.ne_of_mem_own hname (List.mem_map_of_mem hinner))]

/-- With the fields that were kept from `s` and all others from the defaults, the fields that were
dropped are reset: an override that is not set has no entry, and its default says the same. -/
theorem gather_kept {s : σ} {drop : String → Bool} {names : List String}
    (hkept : ∀ field ∈ layout.all, (field.key ∈ names ↔
      drop field.key = false ∧ field.encode s ≠ none)) :
    gather (fun name => if name ∈ names ∧ name ∈ layout.shared.map Field.key then s
      else if name ∈ names ∧ name ∈ layout.own.map Field.key then s else layout.initial) =
      reset gather layout.initial drop s := by
  refine Field.gather_congr h.fits_all (fun _ _ => h.congr) fun field hfield => ?_
  have hname : field.key ∈ layout.shared.map Field.key ∨ field.key ∈ layout.own.map Field.key :=
    (mem_all.1 hfield).symm.imp List.mem_map_of_mem List.mem_map_of_mem
  by_cases hentry : field.key ∈ names
  · left
    rw [if_neg (Bool.eq_false_iff.1 ((hkept field hfield).1 hentry).1)]
    rcases hname with hshared | hown
    · exact if_pos ⟨hentry, hshared⟩
    · rw [if_pos (show field.key ∈ names ∧ _ from ⟨hentry, hown⟩), ite_self]
  · rw [if_neg fun h => hentry h.1, if_neg fun h => hentry h.1]
    by_cases hdrop : drop field.key = true
    · exact .inl (if_pos hdrop).symm
    · refine .inr ⟨rfl, ?_⟩
      rw [if_neg hdrop]
      by_contra hwritten
      exact hentry ((hkept field hfield).2 ⟨Bool.eq_false_iff.2 hdrop, hwritten⟩)

/-- A block from which entries were cut is read with the defaults in their place. -/
theorem decode_without {s : σ} {drop : String → Bool} {json : Json}
    (hjson : json.Reordered ((layout.codec.encode s).without drop)) :
    layout.codec.decode json = .ok (reset gather layout.initial drop s) := by
  have hencode : (layout.codec.encode s).without drop =
      .object ((Field.encodeAll layout.all s).filter fun e => !drop e.1) := rfl
  rw [hencode] at hjson
  obtain ⟨entries, rfl, hkeys, hvalues⟩ := hjson.of_object
  have hkept : ∀ field ∈ layout.all, (field.key ∈ entries.map Prod.fst ↔
      drop field.key = false ∧ field.encode s ≠ none) := by
    intro field hfield
    rw [hkeys, Json.mem_keys_filter, Field.mem_keys_encodeAll h.nodup hfield]
  have htakes : ∀ field ∈ layout.all, ∀ json, (field.key, json) ∈ entries →
      field.Takes gather json s := by
    intro field hfield json hmem
    obtain ⟨other, hother, hreordered⟩ := hvalues _ _ hmem
    have hwritten := Field.encode_eq_of_mem h.nodup hfield (List.mem_of_mem_filter hother)
    exact (h.fits_all field hfield).takes hwritten hreordered
  change (do
    let s ← Field.decodeAll layout.own entries layout.initial
    Field.decodeAll layout.shared entries s) = Except.ok _
  rw [← h.const layout.initial, Field.decodeAll_gather fun field hfield =>
    htakes field (mem_all.2 (.inl hfield))]
  change Field.decodeAll layout.shared entries (gather _) = _
  rw [Field.decodeAll_gather fun field hfield => htakes field (mem_all.2 (.inr hfield)), h.const]
  exact congrArg Except.ok (h.gather_kept hkept)

end Gathers

/-- The layouts of all analyzers' blocks are right. -/
theorem gathers_each :
    ClangSettings.layout.Gathers .gather ∧ CppCheckSettings.layout.Gathers .gather ∧
    FlexelintSettings.layout.Gathers .gather ∧ PclintPlusSettings.layout.Gathers .gather ∧
    FlawFinderSettings.layout.Gathers .gather ∧ LizardSettings.layout.Gathers .gather := by
  -- The blocks differ in which fields they have and in nothing else.
  and_intros
  all_goals
    refine { fits := ?_, place := fun a b h => ?_ }
    · simp only [own, ClangSettings.layout, CppCheckSettings.layout, FlexelintSettings.layout,
        PclintPlusSettings.layout, FlawFinderSettings.layout, LizardSettings.layout,
        List.cons_append, List.nil_append, List.forall_mem_cons, List.not_mem_nil, false_implies,
        implies_true, and_true]
      and_intros <;> exact Field.fits_plain (by
        simp [ClangSettings.gather, CppCheckSettings.gather, FlexelintSettings.gather,
          PclintPlusSettings.gather, FlawFinderSettings.gather, LizardSettings.gather,
          Overrides.gather])
    · simp only [own, ClangSettings.layout, CppCheckSettings.layout, FlexelintSettings.layout,
        PclintPlusSettings.layout, FlawFinderSettings.layout, LizardSettings.layout,
        List.cons_append, List.nil_append, List.map_cons, List.forall_mem_cons, Field.plain] at h
      simp only [ClangSettings.layout, CppCheckSettings.layout, FlexelintSettings.layout,
        PclintPlusSettings.layout, FlawFinderSettings.layout, LizardSettings.layout,
        ClangSettings.gather, CppCheckSettings.gather, FlexelintSettings.gather,
        PclintPlusSettings.gather, FlawFinderSettings.gather, LizardSettings.gather, h]

end BlockLayout

/-! ## Settings -/

namespace Settings

/-- A field of the settings is read with what was cut inside it reset. -/
def TakesCut (field : Field Settings) : Prop :=
  ∀ {cut : Cut} {s : Settings} {json other : Json}, field.encode s = some other →
    json.Reordered (other.without (cut.inside field.key)) →
    field.Takes gather json (s.resetBlocks cut)

/-- In a field that is no block, there is nothing to cut. -/
theorem takesCut_plain {α : Type} {key : String} {codec : Codec α} [codec.Lawful]
    {get : Settings → α} {set : α → Settings → Settings}
    (hset : ∀ s source, set (get s) (gather source) = gather (Function.update source key s))
    (hwhole : ∀ drop a, (codec.encode a).without drop = codec.encode a)
    (hget : ∀ cut s, get (s.resetBlocks cut) = get s) : TakesCut (.plain key codec get set) := by
  intro cut s json other hwritten hjson
  obtain rfl : codec.encode (get s) = other := Option.some.inj hwritten
  rw [hwhole] at hjson
  refine Field.takes_plain hset ?_
  rw [hget]
  exact Codec.Lawful.decode_eq hjson

/-- A block is read without what was cut inside it. -/
theorem takesCut_block {σ : Type} {key : String} {layout : BlockLayout σ}
    {block : (String → σ) → σ} (hlayout : layout.Gathers block)
    {get : Settings → σ} {set : σ → Settings → Settings}
    (hset : ∀ s source, set (get s) (gather source) = gather (Function.update source key s))
    (hget : ∀ cut s, get (resetBlocks cut s) =
      reset block layout.initial (cut.inside key) (get s)) :
    TakesCut (.plain key layout.codec get set) := by
  intro cut s json other hwritten hjson
  obtain rfl : layout.codec.encode (get s) = other := Option.some.inj hwritten
  refine Field.takes_plain hset ?_
  rw [hget]
  exact hlayout.decode_without hjson

/-- All fields of the settings are read so. -/
theorem takesCut_fields : ∀ field ∈ fields, TakesCut field := by
  obtain ⟨hclang, hcppcheck, hflexelint, hpclintplus, hflawfinder, hlizard⟩ :=
    BlockLayout.gathers_each
  simp only [fields, List.forall_mem_cons, List.not_mem_nil, false_implies, implies_true, and_true]
  and_intros
  -- The fields in front of the blocks are written whole.
  iterate 10 exact takesCut_plain (by simp [gather]) (fun _ _ => rfl) fun _ _ => rfl
  · exact takesCut_block hclang (by simp [gather]) fun _ _ => rfl
  · exact takesCut_block hcppcheck (by simp [gather]) fun _ _ => rfl
  · exact takesCut_block hflexelint (by simp [gather]) fun _ _ => rfl
  · exact takesCut_block hpclintplus (by simp [gather]) fun _ _ => rfl
  · exact takesCut_block hflawfinder (by simp [gather]) fun _ _ => rfl
  · exact takesCut_block hlizard (by simp [gather]) fun _ _ => rfl

/-- Only the names of fields count. -/
theorem gather_congr {a b : String → Settings}
    (h : ∀ name ∈ fields.map Field.key, a name = b name) : gather a = gather b := by
  simp only [fields, List.map_cons, List.forall_mem_cons, Field.plain] at h
  simp only [gather, h]

/-- Settings have distinct names. -/
theorem nodup_fields : (fields.map Field.key).Nodup := by
  decide +kernel

/-- All fields of settings are written. -/
theorem encode_ne_none : ∀ field ∈ fields, ∀ s, field.encode s ≠ none := by
  simp [fields, Field.plain]

/-- No field has the name of the section. -/
theorem sectionName_not_mem : sectionName ∉ fields.map Field.key := by
  decide +kernel

section Reading

variable {s : Settings} {cut : Cut} {json : Json} (hjson : json.Reordered (cut.prune s.toJson))

include hjson

/-- Written settings from which entries were cut list the names that are left, each with what was
written for its field and cut inside. -/
theorem exists_entries : ∃ entries, json = .object entries ∧
    (∀ field ∈ fields, (field.key ∈ entries.map Prod.fst ↔ cut.top field.key = false)) ∧
    ∀ name value, (name, value) ∈ entries → ∃ other, (name, other) ∈ Field.encodeAll fields s ∧
      value.Reordered (other.without (cut.inside name)) := by
  have hprune : cut.prune s.toJson = .object (((Field.encodeAll fields s).filter fun e =>
      !cut.top e.1).map fun e => (e.1, e.2.without (cut.inside e.1))) := rfl
  rw [hprune] at hjson
  obtain ⟨entries, rfl, hkeys, hvalues⟩ := hjson.of_object
  refine ⟨entries, rfl, fun field hfield => ?_, fun name value hmem => ?_⟩
  · have hfst : (Prod.fst ∘ fun e : String × Json => (e.1, e.2.without (cut.inside e.1))) =
        Prod.fst := rfl
    rw [hkeys, List.map_map, hfst, Json.mem_keys_filter,
      Field.mem_keys_encodeAll nodup_fields hfield]
    exact and_iff_left (encode_ne_none field hfield s)
  · obtain ⟨other, hother, hreordered⟩ := hvalues name value hmem
    obtain ⟨⟨key, written⟩, hwritten, heq⟩ := List.mem_map.1 hother
    obtain ⟨rfl, rfl⟩ := Prod.mk.inj heq
    exact ⟨written, List.mem_of_mem_filter hwritten, hreordered⟩

/-- They are read with the defaults for what was cut. -/
theorem ofBareJson_prune : ofBareJson json = .ok (s.without cut) := by
  obtain ⟨entries, rfl, hkept, hvalues⟩ := exists_entries hjson
  have htakes : ∀ field ∈ fields, ∀ json, (field.key, json) ∈ entries →
      field.Takes gather json (s.resetBlocks cut) := by
    intro field hfield json hmem
    obtain ⟨other, hother, hreordered⟩ := hvalues _ _ hmem
    have hwritten := Field.encode_eq_of_mem nodup_fields hfield hother
    exact takesCut_fields field hfield hwritten hreordered
  have hinitial : initial = gather fun _ => initial := rfl
  change Field.decodeAll fields entries initial = _
  rw [hinitial, Field.decodeAll_gather htakes]
  unfold without reset
  refine congrArg Except.ok (gather_congr fun name hname => ?_)
  obtain ⟨field, hfield, rfl⟩ := List.mem_map.1 hname
  by_cases htop : cut.top field.key = true
  · rw [if_pos htop, if_neg fun h => ?_]
    exact Bool.eq_false_iff.1 ((hkept field hfield).1 h.1) htop
  · rw [if_neg htop, if_pos ⟨(hkept field hfield).2 (Bool.eq_false_iff.2 htop), hname⟩]

/-- They are not taken for a section. -/
theorem field?_sectionName_prune : json.field? sectionName = none := by
  obtain ⟨entries, rfl, -, hvalues⟩ := exists_entries hjson
  cases hfield : Json.field? sectionName (.object entries) with
  | none => rfl
  | some value =>
    obtain ⟨other, hother, -⟩ := hvalues _ _ (Table.mem_of_find? hfield)
    obtain ⟨field, hmem, hwritten⟩ := List.mem_filterMap.1 hother
    obtain ⟨json, -, heq⟩ := Option.map_eq_some_iff.1 hwritten
    exact absurd (List.mem_map.2 ⟨field, hmem, (Prod.mk.inj heq).1⟩) sectionName_not_mem

/-- They are read so alone and in their section. -/
theorem ofJson_eq_without : ofJson json = .ok (s.without cut) ∧
    ∀ wrapper, wrapper.field? "c-cpp-flylint" = some json →
      ofJson wrapper = .ok (s.without cut) := by
  unfold ofJson
  refine ⟨?_, fun wrapper hwrapper => ?_⟩
  · rw [field?_sectionName_prune hjson]
    exact ofBareJson_prune hjson
  · rw [sectionName, hwrapper]
    exact ofBareJson_prune hjson

end Reading

/-- Where nothing is cut, everything remains. -/
theorem prune_none (s : Settings) : Cut.none.prune s.toJson = s.toJson := by
  have hwithout : ∀ json : Json, json.without (fun _ => false) = json := by
    intro json
    cases json with
    | object entries => exact congrArg Json.object (List.filter_eq_self.2 fun _ _ => rfl)
    | _ => rfl
  have hentries : ∀ entries : List (String × Json),
      (entries.filter fun e => !Cut.none.top e.1).map
        (fun e => (e.1, e.2.without (Cut.none.inside e.1))) = entries := by
    intro entries
    have hfilter : (entries.filter fun e => !Cut.none.top e.1) = entries :=
      List.filter_eq_self.2 fun _ _ => rfl
    have hmap : entries.map (fun e => (e.1, e.2.without (Cut.none.inside e.1))) = entries.map id :=
      List.map_congr_left fun e _ => congrArg (Prod.mk e.1) (hwithout e.2)
    rw [hfilter, hmap, List.map_id]
  exact congrArg Json.object (hentries _)

/-- Settings from whose written form any entries were deleted, at the top or inside blocks, are read
as the same settings with just those fields at their defaults, whether they stand alone or in their
section, and in whatever order objects list their entries. So reading undoes writing, and what was
once read is written and read again without change. -/
theorem ofJson_prune (s : Settings) (cut : Cut) :
    (∀ json, json.Reordered (cut.prune s.toJson) → ofJson json = .ok (s.without cut) ∧
      ∀ wrapper, wrapper.field? "c-cpp-flylint" = some json →
        ofJson wrapper = .ok (s.without cut)) ∧
    (ofJson s.toJson = .ok s ∧
      ∀ wrapper, wrapper.field? "c-cpp-flylint" = some s.toJson → ofJson wrapper = .ok s) ∧
    ∀ value t, ofJson value = .ok t → ofJson t.toJson = .ok t := by
  have hundo : ∀ s : Settings, ofJson s.toJson = .ok s ∧
      ∀ wrapper, wrapper.field? "c-cpp-flylint" = some s.toJson → ofJson wrapper = .ok s := by
    intro s
    have hnone : s.toJson.Reordered (Cut.none.prune s.toJson) := by
      rw [prune_none]
      exact .same _
    exact ofJson_eq_without hnone
  exact ⟨fun json hjson => ofJson_eq_without hjson, hundo s, fun value t _ => (hundo t).1⟩

namespace Trimmed

/-- Settings for a newer standard, with the block of Clang changed. -/
def settings : Settings :=
  { initial with
    standard := ["c11"]
    clang :=
      { ClangSettings.initial with
        executable := "clang-19"
        pedantic := true
        overrides := { Overrides.none with standard := some ["c++20"], defines := some [] } } }

/-- The cut that leaves two entries of one block. -/
def cut : Cut where
  top name := name != "clang"
  inside _ name := name != "standard" && name != "pedantic"

/-- What is left in writing, with the two entries in another order. -/
def written : Json :=
  .object [("clang", .object [("pedantic", .bool true), ("standard", .texts ["c++20"])])]

end Trimmed

/-- Two entries of a block are all that is read of such settings. -/
theorem trimmed_settings_read :
    Trimmed.written.Reordered (Trimmed.cut.prune Trimmed.settings.toJson) ∧
    ofJson (.object [("editor", .null), ("c-cpp-flylint", Trimmed.written)]) = .ok { initial with
      clang := { ClangSettings.initial with
        pedantic := true
        overrides := { Overrides.none with standard := some ["c++20"] } } } := by
  have hprune : Trimmed.cut.prune Trimmed.settings.toJson = .object [("clang", .object
      [("standard", .texts ["c++20"]), ("pedantic", .bool true)])] := by rfl
  have hwritten : Trimmed.written.Reordered (Trimmed.cut.prune Trimmed.settings.toJson) := by
    rw [hprune]
    exact .object (.cons (.object (.cons (.same _) (.cons (.same _) .nil)) (.swap _ _ _)) .nil)
      (.refl _)
  exact ⟨hwritten, ((ofJson_prune Trimmed.settings Trimmed.cut).1 _ hwritten).2 _ rfl⟩

end Settings

end LintRelay

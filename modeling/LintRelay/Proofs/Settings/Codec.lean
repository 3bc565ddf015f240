import Mathlib.Data.List.Nodup
import Mathlib.Logic.Function.Basic
import LintRelay.Proofs.Table
import LintRelay.Settings.Written

/-!
# Reading back what was written

A codec is lawful if it reads back every value from what it writes for it (`Codec.Lawful`). The
entries of an object may have changed places in between (`Json.Reordered`), since no reader should
depend on their order.

For the fields of a structure the same is said name by name. A structure is gathered from sources,
one for each name, and a field is right if reading it moves its own name to another source and no
other name (`Field.Fits`). A run over entries in any order is then known by the names it has met
(`Field.decodeAll_gather`), without a word about which updates commute.
-/

namespace LintRelay

/-! ## Values up to the order of entries -/

namespace Json

mutual
/-- A value is another one up to the order in which objects list their entries, at any depth. -/
inductive Reordered : Json → Json → Prop where
  /-- Every value is itself. -/
  | same (json : Json) : Reordered json json
  /-- The items of arrays keep their places. -/
  | array {items others : List Json} (hitems : ReorderedItems items others) :
    Reordered (.array items) (.array others)
  /-- The entries of objects may change theirs. -/
  | object {entries inner others : List (String × Json)} (hentries : ReorderedEntries entries inner)
    (hperm : inner.Perm others) : Reordered (.object entries) (.object others)

/-- Items are others, one by one. -/
inductive ReorderedItems : List Json → List Json → Prop where
  | nil : ReorderedItems [] []
  | cons {item other : Json} {items others : List Json} (hitem : Reordered item other)
    (hitems : ReorderedItems items others) : ReorderedItems (item :: items) (other :: others)

/-- Entries are others, one by one, under the same keys. -/
inductive ReorderedEntries : List (String × Json) → List (String × Json) → Prop where
  | nil : ReorderedEntries [] []
  | cons {key : String} {value other : Json} {entries others : List (String × Json)}
    (hvalue : Reordered value other) (hentries : ReorderedEntries entries others) :
    ReorderedEntries ((key, value) :: entries) ((key, other) :: others)
end

/-- Entries that correspond have the same keys. -/
theorem ReorderedEntries.keys_eq {entries others : List (String × Json)}
    (h : ReorderedEntries entries others) : entries.map Prod.fst = others.map Prod.fst := by
  induction entries generalizing others with
  | nil =>
    cases h
    rfl
  | cons e rest ih =>
    cases h with
    | cons hvalue hentries => rw [List.map_cons, List.map_cons, ih hentries]

/-- An entry has a counterpart under its key. -/
theorem ReorderedEntries.exists_of_mem {entries others : List (String × Json)}
    (h : ReorderedEntries entries others) {key : String} {value : Json}
    (hmem : (key, value) ∈ entries) : ∃ other, (key, other) ∈ others ∧ Reordered value other := by
  induction entries generalizing others with
  | nil => exact absurd hmem List.not_mem_nil
  | cons e rest ih =>
    cases h with
    | cons hvalue hentries =>
      rcases List.mem_cons.1 hmem with heq | hmem
      · obtain ⟨rfl, rfl⟩ := Prod.mk.inj heq
        exact ⟨_, List.mem_cons_self, hvalue⟩
      · obtain ⟨other, hother, hreordered⟩ := ih hentries hmem
        exact ⟨other, List.mem_cons_of_mem _ hother, hreordered⟩

/-- What is an object up to order is an object. It has the same keys, and under each of them what
was there up to order. -/
theorem Reordered.of_object {json : Json} {others : List (String × Json)}
    (h : Reordered json (.object others)) : ∃ entries, json = .object entries ∧
      (∀ key, key ∈ entries.map Prod.fst ↔ key ∈ others.map Prod.fst) ∧
      ∀ key value, (key, value) ∈ entries → ∃ other, (key, other) ∈ others ∧
        Reordered value other := by
  cases h with
  | same => exact ⟨others, rfl, fun key => Iff.rfl, fun key value hmem => ⟨value, hmem, .same _⟩⟩
  | @object entries inner _ hentries hperm =>
    refine ⟨entries, rfl, fun key => ?_, fun key value hmem => ?_⟩
    · rw [hentries.keys_eq]
      exact (hperm.map Prod.fst).mem_iff
    · obtain ⟨other, hother, hreordered⟩ := hentries.exists_of_mem hmem
      exact ⟨other, hperm.mem_iff.1 hother, hreordered⟩

/-- Texts are themselves only, one by one. -/
theorem ReorderedItems.of_strings {items : List Json} {values : List String}
    (h : ReorderedItems items (values.map .string)) : items = values.map .string := by
  induction values generalizing items with
  | nil =>
    cases h
    rfl
  | cons value rest ih =>
    cases h with
    | cons hitem hitems =>
      cases hitem
      rw [ih hitems]
      rfl

/-- A list of texts is itself only. -/
theorem Reordered.of_texts {json : Json} {values : List String}
    (h : Reordered json (.texts values)) : json = .texts values := by
  unfold texts at h ⊢
  cases h with
  | same => rfl
  | array hitems => rw [hitems.of_strings]

end Json

/-! ## Lawful codecs -/

/-- A codec reads back a value from all that is, up to order, what it writes for it. -/
class Codec.Lawful {α : Type} (codec : Codec α) : Prop where
  /-- What is read is what was written. -/
  decode_eq : ∀ {a : α} {json : Json}, json.Reordered (codec.encode a) → codec.decode json = .ok a

namespace Codec

instance : bool.Lawful where
  decode_eq h := by
    cases h
    rfl

instance : text.Lawful where
  decode_eq h := by
    cases h
    rfl

/-- Texts are read back one by one. -/
theorem mapM_decode_text (values : List String) :
    (values.map Json.string).mapM text.decode = .ok values := by
  induction values with
  | nil => rfl
  | cons value rest ih =>
    rw [List.map_cons, List.mapM_cons, ih]
    rfl

instance : texts.Lawful where
  decode_eq h := by
    rw [h.of_texts]
    exact mapM_decode_text _

instance : textOrTexts.Lawful where
  decode_eq h := by
    rw [h.of_texts]
    exact mapM_decode_text _

/-- A word is read back if it stands for one of all values, and for no other. -/
theorem word_lawful {α : Type} {name : α → String} {all : List α} (isUnit : Json → Bool)
    (hname : ∀ a b, name a = name b → a = b) (hall : ∀ a, a ∈ all) :
    (word name all isUnit).Lawful where
  decode_eq {a json} h := by
    cases h
    have hfind : all.find? (name · = name a) = some a := by
      cases hfound : all.find? (name · = name a) with
      | none => exact absurd (List.find?_eq_none.1 hfound a (hall a)) (by simp)
      | some b =>
        have hb := List.find?_some hfound
        rw [hname b a (by simpa using hb)]
    unfold word
    dsimp only
    rw [hfind]

instance : trigger.Lawful :=
  word_lawful _ (by intro a b; cases a <;> cases b <;> decide) (by intro a; cases a <;> decide)

instance : language.Lawful :=
  word_lawful _ (by intro a b; cases a <;> cases b <;> decide) (by intro a; cases a <;> decide)

instance : ownLanguage.Lawful :=
  word_lawful _ (by intro a b; cases a <;> cases b <;> decide) (by intro a; cases a <;> decide)

instance : severity.Lawful where
  decode_eq {a json} h := by
    cases h
    cases a <;> rfl

/-- A list in which everything is read is read whole. -/
theorem exists_mapM_eq {α β ε : Type} {f : α → Except ε β} {P : α → β → Prop} {l : List α}
    (h : ∀ a ∈ l, ∃ b, f a = .ok b ∧ P a b) :
    ∃ r, l.mapM f = .ok r ∧ (∀ b ∈ r, ∃ a ∈ l, P a b) ∧ ∀ a ∈ l, ∃ b ∈ r, P a b := by
  induction l with
  | nil => exact ⟨[], rfl, by simp, by simp⟩
  | cons a rest ih =>
    obtain ⟨b, hb, hab⟩ := h a List.mem_cons_self
    obtain ⟨r, hr, hfrom, hto⟩ := ih fun a' ha' => h a' (List.mem_cons_of_mem _ ha')
    refine ⟨b :: r, ?_, ?_, ?_⟩
    · rw [List.mapM_cons, hb, hr]
      rfl
    · intro b' hb'
      rcases List.mem_cons.1 hb' with rfl | hb'
      · exact ⟨a, List.mem_cons_self, hab⟩
      · obtain ⟨a', ha', hab'⟩ := hfrom b' hb'
        exact ⟨a', List.mem_cons_of_mem _ ha', hab'⟩
    · intro a' ha'
      rcases List.mem_cons.1 ha' with rfl | ha'
      · exact ⟨b, List.mem_cons_self, hab⟩
      · obtain ⟨b', hb', hab'⟩ := hto a' ha'
        exact ⟨b', List.mem_cons_of_mem _ hb', hab'⟩

instance {α : Type} {codec : Codec α} [codec.Lawful] : (table codec).Lawful where
  decode_eq {t json} h := by
    obtain ⟨entries, rfl, hkeys, hvalues⟩ := h.of_object
    -- Every entry is read as one of the table.
    have hentry : ∀ e ∈ entries, ∃ b : String × α,
        (do return (e.1, ← codec.decode e.2)) = @Except.ok SettingsError _ b ∧
          (b.1 = e.1 ∧ t.get? b.1 = some b.2) := by
      rintro ⟨key, value⟩ hmem
      obtain ⟨other, hother, hreordered⟩ := hvalues key value hmem
      obtain ⟨⟨k, a⟩, ha, heq⟩ := List.mem_map.1 hother
      obtain ⟨rfl, rfl⟩ := Prod.mk.inj heq
      refine ⟨(k, a), ?_, rfl, Table.mem_entries.1 ha⟩
      dsimp only
      rw [Lawful.decode_eq hreordered]
      rfl
    obtain ⟨read, hread, hfrom, hto⟩ := exists_mapM_eq hentry
    change (do
      let entries ← entries.mapM fun e => do return (e.1, ← codec.decode e.2)
      return Table.ofList entries) = Except.ok t
    rw [hread]
    refine congrArg Except.ok (Table.ofList_eq (fun e he => ?_) fun key hkey => ?_)
    · obtain ⟨-, -, -, hget⟩ := hfrom e he
      exact hget
    · have hmem : key ∈ entries.map Prod.fst := by
        rw [hkeys, List.map_map]
        exact hkey
      obtain ⟨e, he, rfl⟩ := List.mem_map.1 hmem
      obtain ⟨b, hb, heq, -⟩ := hto e he
      exact List.mem_map.2 ⟨b, hb, heq⟩

end Codec

/-! ## Fields -/

namespace Field

variable {σ τ α : Type} {gather : (String → σ) → σ} {initial : σ}

/-- Reading `json` makes the field that of `s`, and leaves all others alone. Structures are told by
where the field of each name comes from, which `gather` puts together. -/
def Takes (gather : (String → σ) → σ) (field : Field σ) (json : Json) (s : σ) : Prop :=
  ∃ update, field.decode json = .ok update ∧
    ∀ source, update (gather source) = gather (Function.update source field.key s)

/-- A field belongs to its name: what is written for it is taken under the name, and it is left out
only where it is the default. -/
structure Fits (gather : (String → σ) → σ) (initial : σ) (field : Field σ) : Prop where
  /-- What is written is read back, up to order. -/
  takes : ∀ {s : σ} {json other : Json}, field.encode s = some other → json.Reordered other →
    field.Takes gather json s
  /-- What is left out is the default. -/
  blank : ∀ {s : σ}, field.encode s = none → ∀ source,
    gather (Function.update source field.key s) = gather (Function.update source field.key initial)

/-- A field that is always written takes the value that is read. -/
theorem takes_plain {key : String} {codec : Codec α} {get : σ → α} {set : α → σ → σ}
    (hset : ∀ s source, set (get s) (gather source) = gather (Function.update source key s))
    {json : Json} {s : σ} (hjson : codec.decode json = .ok (get s)) :
    (plain key codec get set).Takes gather json s := by
  refine ⟨set (get s), ?_, hset s⟩
  change (codec.decode json).map set = _
  rw [hjson]
  rfl

/-- A field that is always written belongs to its name. -/
theorem fits_plain {key : String} {codec : Codec α} [codec.Lawful] {get : σ → α} {set : α → σ → σ}
    (hset : ∀ s source, set (get s) (gather source) = gather (Function.update source key s)) :
    (plain key codec get set).Fits gather initial where
  takes {s json other} hwritten hjson := by
    obtain rfl : codec.encode (get s) = other := Option.some.inj hwritten
    exact takes_plain hset (Codec.Lawful.decode_eq hjson)
  blank hwritten := absurd hwritten (Option.some_ne_none _)

/-- A field that may be left out belongs to its name, if it is absent by default and `null` stands
for nothing else. -/
theorem fits_optional {key : String} {codec : Codec α} [codec.Lawful] {get : σ → Option α}
    {set : Option α → σ → σ} (hinitial : get initial = none)
    (hnull : ∀ a, codec.decode .null ≠ .ok a)
    (hset : ∀ s source, set (get s) (gather source) = gather (Function.update source key s)) :
    (optional key codec get set).Fits gather initial where
  takes {s json other} hwritten hjson := by
    obtain ⟨a, hget, rfl⟩ := Option.map_eq_some_iff.1 hwritten
    have hread : codec.decode json = .ok a := Codec.Lawful.decode_eq hjson
    refine ⟨set (some a), ?_, fun source => by rw [← hget]; exact hset s source⟩
    have hdecode : (optional key codec get set).decode json =
        (codec.decode json).map fun a => set (some a) := by
      cases json with
      | null => exact absurd hread (hnull a)
      | _ => rfl
    rw [hdecode, hread]
    rfl
  blank {s} hs source := by
    have hs : get s = none := Option.map_eq_none_iff.1 hs
    change gather (Function.update source key s) = gather (Function.update source key initial)
    rw [← hset s, ← hset initial, hs, hinitial]

/-- A field of a part belongs to its name, if the part is gathered like the whole and is all that
the name stands for. -/
theorem fits_inside {part : (String → τ) → τ} {get : σ → τ} {set : τ → σ → σ} {field : Field τ}
    (hfield : field.Fits part (get initial))
    (hget : ∀ source, get (gather source) = part (get ∘ source))
    (hset : ∀ source s, set (get (gather (Function.update source field.key s))) (gather source) =
      gather (Function.update source field.key s)) :
    (inside get set field).Fits gather initial where
  takes {s json other} hwritten hjson := by
    obtain ⟨update, hdecode, hupdate⟩ := hfield.takes hwritten hjson
    refine ⟨fun s => set (update (get s)) s, ?_, fun source => ?_⟩
    · change (field.decode json).map _ = _
      rw [hdecode]
      rfl
    · change set (update (get (gather source))) (gather source) =
        gather (Function.update source field.key s)
      rw [hget, hupdate, ← Function.comp_update, ← hget, hset]
  blank {s} hs source := by
    change gather (Function.update source field.key s) =
      gather (Function.update source field.key initial)
    rw [← hset source s, ← hset source initial, hget, hget, Function.comp_update,
      Function.comp_update, hfield.blank hs]

/-- Reading entries takes every field that one of them names, in whatever order they come. -/
theorem decodeAll_gather {fields : List (Field σ)} {entries : List (String × Json)} {s : σ}
    (htakes : ∀ field ∈ fields, ∀ json, (field.key, json) ∈ entries → field.Takes gather json s)
    (source : String → σ) :
    decodeAll fields entries (gather source) = .ok (gather fun name =>
      if name ∈ entries.map Prod.fst ∧ name ∈ fields.map key then s else source name) := by
  -- The run is told by the names seen so far: each entry moves its name from `source` to `s`.
  induction entries generalizing source with
  | nil => simp [decodeAll]
  | cons e rest ih =>
    obtain ⟨name, json⟩ := e
    have hrest : ∀ field ∈ fields, ∀ json, (field.key, json) ∈ rest → field.Takes gather json s :=
      fun field hfield json hmem => htakes field hfield json (List.mem_cons_of_mem _ hmem)
    have hmem : ∀ other, other ≠ name →
        (other ∈ ((name, json) :: rest).map Prod.fst ↔ other ∈ rest.map Prod.fst) := by
      intro other hother
      rw [List.map_cons, List.mem_cons, or_iff_right hother]
    unfold decodeAll
    cases hfind : fields.find? (·.key = name) with
    | none =>
      have hname : name ∉ fields.map key := by
        intro hmem
        obtain ⟨field, hfield, hkey⟩ := List.mem_map.1 hmem
        exact absurd (List.find?_eq_none.1 hfind field hfield) (by simp [hkey])
      dsimp only
      rw [ih hrest]
      congr 2
      funext other
      by_cases hother : other = name
      · rw [if_neg fun h => hname (hother ▸ h.2), if_neg fun h => hname (hother ▸ h.2)]
      · simp only [hmem other hother]
    | some field =>
      have hfield : field ∈ fields := List.mem_of_find?_eq_some hfind
      have hkey : field.key = name := by simpa using List.find?_some hfind
      have hname : name ∈ fields.map key := List.mem_map.2 ⟨field, hfield, hkey⟩
      obtain ⟨update, hdecode, hupdate⟩ :=
        htakes field hfield json (by rw [hkey]; exact List.mem_cons_self)
      dsimp only
      rw [hdecode]
      change decodeAll fields rest (update (gather source)) = _
      rw [hupdate, ih hrest, hkey]
      congr 2
      funext other
      by_cases hother : other = name
      · subst hother
        rw [Function.update_self, ite_self, if_pos ⟨List.mem_cons_self, hname⟩]
      · rw [Function.update_of_ne hother]
        simp only [hmem other hother]

/-- With distinct names, what stands under the name of a field is what is written for it. -/
theorem encode_eq_of_mem {fields : List (Field σ)} (hnodup : (fields.map key).Nodup) {s : σ}
    {field : Field σ} (hfield : field ∈ fields) {json : Json}
    (hmem : (field.key, json) ∈ encodeAll fields s) : field.encode s = some json := by
  obtain ⟨other, hother, hwritten⟩ := List.mem_filterMap.1 hmem
  obtain ⟨json', hencode, heq⟩ := Option.map_eq_some_iff.1 hwritten
  obtain ⟨hkey, rfl⟩ := Prod.mk.inj heq
  rw [List.inj_on_of_nodup_map hnodup hfield hother hkey.symm]
  exact hencode

/-- The names of the entries are those of the fields for which something is written. -/
theorem mem_keys_encodeAll {fields : List (Field σ)} (hnodup : (fields.map key).Nodup) {s : σ}
    {field : Field σ} (hfield : field ∈ fields) :
    field.key ∈ (encodeAll fields s).map Prod.fst ↔ field.encode s ≠ none := by
  constructor
  · intro hmem
    obtain ⟨⟨name, json⟩, hentry, rfl⟩ := List.mem_map.1 hmem
    rw [encode_eq_of_mem hnodup hfield hentry]
    exact Option.some_ne_none json
  · intro hwritten
    obtain ⟨json, hjson⟩ := Option.ne_none_iff_exists'.1 hwritten
    have hentry : (field.key, json) ∈ encodeAll fields s :=
      List.mem_filterMap.2 ⟨field, hfield, by rw [hjson]; rfl⟩
    exact List.mem_map_of_mem hentry

/-- What is gathered does not change where a default takes the place of what is left out. -/
theorem gather_congr {fields : List (Field σ)} (hfits : ∀ field ∈ fields, field.Fits gather initial)
    (hnames : ∀ a b : String → σ, (∀ name ∈ fields.map key, a name = b name) → gather a = gather b)
    {a b : String → σ} (h : ∀ field ∈ fields, a field.key = b field.key ∨
      a field.key = initial ∧ field.encode (b field.key) = none) :
    gather a = gather b := by
  -- The names are moved from `a` to `b` one by one.
  have hmove : ∀ moved : List (Field σ), (∀ field ∈ moved, field ∈ fields) →
      gather a = gather fun name => if name ∈ moved.map key then b name else a name := by
    intro moved hmoved
    induction moved with
    | nil => simp
    | cons field rest ih =>
      obtain ⟨hfield, hrest⟩ := List.forall_mem_cons.1 hmoved
      rw [ih hrest]
      let c := fun name => if name ∈ rest.map key then b name else a name
      have hnext : (fun name => if name ∈ (field :: rest).map key then b name else a name) =
          Function.update c field.key (b field.key) := by
        funext name
        by_cases hname : name = field.key
        · rw [hname, Function.update_self]
          exact if_pos List.mem_cons_self
        · rw [Function.update_of_ne hname]
          simp only [List.map_cons, List.mem_cons, or_iff_right hname]
          rfl
      have hsame : gather (Function.update c field.key (c field.key)) =
          gather (Function.update c field.key (b field.key)) := by
        by_cases hmem : field.key ∈ rest.map key
        · rw [show c field.key = b field.key from if_pos hmem]
        · rw [show c field.key = a field.key from if_neg hmem]
          rcases h field hfield with heq | ⟨hinitial, hblank⟩
          · rw [heq]
          · rw [hinitial, (hfits field hfield).blank hblank]
      rw [hnext, ← hsame, Function.update_eq_self]
  rw [hmove fields fun field hfield => hfield]
  exact hnames _ _ fun name hname => if_pos hname

end Field

end LintRelay

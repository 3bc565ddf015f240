import LintRelay.Failure
import LintRelay.Json

/-!
# Fields

A block of settings is written as an object with one entry for each field. A `Field` says how one
field of a structure is written and read; a list of fields says it for the whole structure. What an
object does not mention keeps the value it had, and entries that name no field count for nothing.
-/

namespace LintRelay

/-- How the values of a type are written as JSON, and read from it. -/
structure Codec (α : Type) where
  /-- The written form of a value. -/
  encode : α → Json
  /-- The value of a written form. -/
  decode : Json → Except SettingsError α

namespace Codec

/-- Truth values. -/
def bool : Codec Bool where
  encode := .bool
  decode
    | .bool b => .ok b
    | _ => .error .illTyped

/-- Texts. -/
def text : Codec String where
  encode := .string
  decode
    | .string s => .ok s
    | _ => .error .illTyped

/-- Lists of texts. -/
def texts : Codec (List String) where
  encode := Json.texts
  decode
    | .array items => items.mapM text.decode
    | _ => .error .illTyped

/-- Lists of texts, where a single text may stand for the list that holds it. -/
def textOrTexts : Codec (List String) where
  encode := Json.texts
  decode
    | .string s => .ok [s]
    | json => texts.decode json

/-- The values that words stand for. A word may also be written as the only field of an object,
with a value that `isUnit` accepts. -/
def word {α : Type} (name : α → String) (all : List α) (isUnit : Json → Bool) : Codec α where
  encode a := .string (name a)
  decode json :=
    let find (word : String) : Except SettingsError α :=
      match all.find? (name · = word) with
      | some a => .ok a
      | none => .error .illTyped
    match json with
    | .string word => find word
    | .object [(word, value)] => if isUnit value then find word else .error .illTyped
    | _ => .error .illTyped

/-- A severity, by name or by number. -/
def severity : Codec Severity where
  encode s := .string s.name
  decode
    | .string word => (Severity.ofName word).mapError .severity
    | .integer (.ofNat n) => (Severity.ofNumber n).mapError .severity
    | _ => .error .illTyped

/-- Tables, written as objects. -/
def table {α : Type} (codec : Codec α) : Codec (Table α) where
  encode t := .object (t.entries.map fun (key, value) => (key, codec.encode value))
  decode
    | .object fields => do
      let entries ← fields.mapM fun (key, value) => return (key, ← codec.decode value)
      return .ofList entries
    | _ => .error .illTyped

end Codec

/-- One field of the structure `σ`, as an entry of an object. -/
structure Field (σ : Type) where
  /-- The entry's name. -/
  key : String
  /-- The entry's value; nothing where the entry is left out. -/
  encode : σ → Option Json
  /-- What the entry's value does to the structure. -/
  decode : Json → Except SettingsError (σ → σ)

namespace Field

variable {σ τ α : Type}

/-- A field that is always written. -/
def plain (key : String) (codec : Codec α) (get : σ → α) (set : α → σ → σ) : Field σ where
  key := key
  encode s := some (codec.encode (get s))
  decode json := (codec.decode json).map set

/-- A field that is left out where it has no value; `null` stands for no value too. -/
def optional (key : String) (codec : Codec α) (get : σ → Option α) (set : Option α → σ → σ) :
    Field σ where
  key := key
  encode s := (get s).map codec.encode
  decode
    | .null => .ok (set none)
    | json => (codec.decode json).map fun a => set (some a)

/-- A field of a part of `σ`, as a field of `σ`. -/
def inside (get : σ → τ) (set : τ → σ → σ) (field : Field τ) : Field σ where
  key := field.key
  encode s := field.encode (get s)
  decode json := (field.decode json).map fun update s => set (update (get s)) s

/-- The entries of a structure. -/
def encodeAll (fields : List (Field σ)) (s : σ) : List (String × Json) :=
  fields.filterMap fun field => (field.encode s).map fun json => (field.key, json)

/-- Reads the entries of an object into a structure, one after the other. -/
def decodeAll (fields : List (Field σ)) : List (String × Json) → σ → Except SettingsError σ
  | [], s => .ok s
  | (key, json) :: rest, s =>
    match fields.find? (·.key = key) with
    | none => decodeAll fields rest s
    | some field => do
      let update ← field.decode json
      decodeAll fields rest (update s)

/-- Reads the items of an array into the fields of a structure, in the order of the fields. Fields
beyond the items keep their value; items beyond the fields are an error. -/
def decodeItems : List (Field σ) → List Json → σ → Except SettingsError σ
  | _, [], s => .ok s
  | [], _ :: _, _ => .error .illTyped
  | field :: fields, json :: rest, s => do
    let update ← field.decode json
    decodeItems fields rest (update s)

end Field

end LintRelay

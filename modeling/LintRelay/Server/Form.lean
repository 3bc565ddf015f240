import LintRelay.Json
import LintRelay.Text.Quoted
import LintRelay.Uri.Reader

/-!
# Forms of parameters

The editor protocol says of every method what its parameters look like. A `Form` reads a value of
such a form: it tells what does not fit, and otherwise gives the value with its fields by name. An
object with known fields may also be written as an array, in the order of its fields.

Fields are read in the order in which they are written; what is missing is found after that.
-/

namespace LintRelay.Server

/-! ## What does not fit -/

/-- Why a value is not of a form. -/
inductive Mismatch where
  /-- It is a value of another kind. -/
  | kind (found : Json) (expected : String)
  /-- It is a value of the kind that may not stand here. -/
  | value (found : Json) (expected : String)
  /-- It is an array of another length. -/
  | length (found : Nat) (expected : String)
  /-- A field is missing. -/
  | field (name : String)
  /-- It is none of the words that may stand here. -/
  | word (found : String) (expected : List String)
  /-- It is of none of several forms. -/
  | alternative (name : String)

/-- A value, as it is named in a message. -/
def named : Json → String
  | .null => "null"
  | .bool b => "boolean \x60" ++ (if b then "true" else "false") ++ "\x60"
  | .integer n => "integer \x60" ++ toString n ++ "\x60"
  | .real text => "floating point \x60" ++ text ++ "\x60"
  | .string s => "string " ++ Text.quoted s
  | .array _ => "sequence"
  | .object _ => "map"

/-- Words, as they are named in a message. -/
def namedWords (words : List String) : String :=
  match words.map fun word => "\x60" ++ word ++ "\x60" with
  | [a, b] => a ++ " or " ++ b
  | [a] => a
  | all => "one of " ++ String.intercalate ", " all

/-- A number of things, as it is named in a message. -/
def namedCount (n : Nat) (thing : String) : String :=
  toString n ++ " " ++ thing ++ (if n = 1 then "" else "s")

/-- The text of a mismatch. -/
def Mismatch.message : Mismatch → String
  | .kind found expected => "invalid type: " ++ named found ++ ", expected " ++ expected
  | .value found expected => "invalid value: " ++ named found ++ ", expected " ++ expected
  | .length found expected => "invalid length " ++ toString found ++ ", expected " ++ expected
  | .field name => "missing field \x60" ++ name ++ "\x60"
  | .word found expected =>
    "unknown variant \x60" ++ found ++ "\x60, expected " ++ namedWords expected
  | .alternative name => "data did not match any variant of untagged enum " ++ name

/-- A form. The first argument tells whether the value was set aside before it is read, which shows
only in the message about an array that is too long. -/
abbrev Form : Type := Bool → Json → Except Mismatch Json

namespace Form

/-! ## Simple forms -/

/-- Any value. -/
def any : Form := fun _ json => .ok json

/-- A truth value. -/
def flag : Form := fun _ json =>
  match json with
  | .bool _ => .ok json
  | _ => .error (.kind json "a boolean")

/-- A text. -/
def text : Form := fun _ json =>
  match json with
  | .string _ => .ok json
  | _ => .error (.kind json "a string")

/-- A URI. -/
def uri : Form := fun _ json =>
  match json with
  | .string s =>
    match Uri.ofText s with
    | .ok _ => .ok json
    | .error e => .error (.value json e.message)
  | _ => .error (.kind json "a string representing an URL")

/-- An integer from one number to another. -/
def integer (name : String) (low high : Int) : Form := fun _ json =>
  match json with
  | .integer n => if low ≤ n ∧ n ≤ high then .ok json else .error (.value json name)
  | _ => .error (.kind json name)

/-- A natural number of 32 bits. -/
def word32 : Form := integer "u32" 0 0xFFFFFFFF

/-- An integer of 32 bits. -/
def int32 : Form := integer "i32" (-0x80000000) 0x7FFFFFFF

/-- Any number. -/
def real : Form := fun _ json =>
  match json with
  | .integer _ | .real _ => .ok json
  | _ => .error (.kind json "f32")

/-- One of several words, which may be the only field of an object, with nothing in it. -/
def choice (words : List String) : Form := fun _ json =>
  match json with
  | .string word => if words.contains word then .ok json else .error (.word word words)
  | .object [(word, value)] =>
    if words.contains word then
      match value with
      | .null => .ok (.string word)
      | _ => .error (.kind value "unit")
    else .error (.word word words)
  | .object _ => .error (.value json "map with a single key")
  | _ => .error (.kind json "string or map")

/-! ## Compound forms -/

/-- A value that may be null. -/
def optional (form : Form) : Form := fun held json =>
  match json with
  | .null => .ok .null
  | _ => form held json

/-- An array. -/
def list (item : Form) : Form := fun held json =>
  match json with
  | .array items => (items.mapM (item held)).map .array
  | _ => .error (.kind json "a sequence")

/-- An object with any names. -/
def table (value : Form) : Form := fun held json =>
  match json with
  | .object fields =>
    (fields.mapM fun field => (value held field.2).map fun json => (field.1, json)).map .object
  | _ => .error (.kind json "a map")

/-- The first of several forms that fits. -/
def either (name : String) (forms : List Form) : Form := fun _ json =>
  match forms.findSome? fun form => (form true json).toOption with
  | some json => .ok json
  | none => .error (.alternative name)

/-! ## Records -/

/-- What a missing field is. -/
inductive Absence where
  /-- An error. -/
  | refused
  /-- Nothing, in an object; an error in an array. -/
  | unnamed
  /-- A value. -/
  | filled (value : Json)

/-- A field of a record. -/
structure Entry where
  /-- Its name. -/
  name : String
  /-- Its form. -/
  form : Form
  /-- What it is if it is missing. -/
  absence : Absence

/-- A field that has to be there. -/
def need (name : String) (form : Form) : Entry := ⟨name, form, .refused⟩

/-- A field that may be null or left out. -/
def may (name : String) (form : Form) : Entry := ⟨name, optional form, .unnamed⟩

/-- A field that may be null or left out, also in an array. -/
def mayEnd (name : String) (form : Form) : Entry := ⟨name, optional form, .filled .null⟩

/-- Reads the fields of an object that are in a list, in the order of the object. -/
def readNamed (entries : List Entry) (held : Bool) :
    List (String × Json) → Except Mismatch (List (String × Json))
  | [] => .ok []
  | (name, json) :: rest =>
    match entries.find? (·.name = name) with
    | none => readNamed entries held rest
    | some entry => do
      let json ← entry.form held json
      return (name, json) :: (← readNamed entries held rest)

/-- Completes the fields that were found with what missing ones are. -/
def complete (found : List (String × Json)) : List Entry → Except Mismatch (List (String × Json))
  | [] => .ok found
  | entry :: rest =>
    if (found.map Prod.fst).contains entry.name then complete found rest
    else
      match entry.absence with
      | .refused => .error (.field entry.name)
      | .unnamed => complete found rest
      | .filled value => complete (found ++ [(entry.name, value)]) rest

/-- Reads the fields of an object. -/
def readFields (entries : List Entry) (held : Bool) (fields : List (String × Json)) :
    Except Mismatch (List (String × Json)) := do
  complete (← readNamed entries held fields) entries

/-- Reads the items of an array as fields, where `tooShort` is the error about the field at a place.
-/
def readItems (held : Bool) (tooShort : Nat → Mismatch) (tooLong : Mismatch) :
    (place : Nat) → List Entry → List Json → Except Mismatch (List (String × Json))
  | _, [], [] => .ok []
  | _, [], _ :: _ => .error tooLong
  | place, entry :: entries, [] =>
    match entry.absence with
    | .filled value => do
      return (entry.name, value) :: (← readItems held tooShort tooLong (place + 1) entries [])
    | _ => .error (tooShort place)
  | place, entry :: entries, json :: rest => do
    let json ← entry.form held json
    return (entry.name, json) :: (← readItems held tooShort tooLong (place + 1) entries rest)

/-- A record: an object with the given fields among others, or an array of just these. -/
def record (name : String) (entries : List Entry) : Form := fun held json =>
  match json with
  | .object fields => (readFields entries held fields).map Json.ofFields
  | .array items =>
    let count := entries.length
    let tooShort (place : Nat) : Mismatch :=
      .length place ("struct " ++ name ++ " with " ++ namedCount count "element")
    let tooLong : Mismatch :=
      .length items.length
        (if held then namedCount count "element" ++ " in sequence" else "fewer elements in array")
    (readItems held tooShort tooLong 0 entries items).map Json.ofFields
  | _ => .error (.kind json ("struct " ++ name))

/-- Reads the fields of each part of an object, one part after the other. -/
def readParts (fields : List (String × Json)) :
    List (List Entry) → Except Mismatch (List (String × Json))
  | [] => .ok []
  | part :: rest => do
    let found ← readFields part true fields
    return found ++ (← readParts fields rest)

/-- A record in several parts. Its own fields are read first, and those of its parts are set aside
until then. It is written as an object only. -/
def joint (name : String) (entries : List Entry) (parts : List (List Entry)) : Form :=
  fun held json =>
    match json with
    | .object fields => do
      let own ← readFields entries held fields
      return Json.ofFields (own ++ (← readParts fields parts))
    | _ => .error (.kind json ("struct " ++ name))

/-- A record whose other fields are all of one form. It is written as an object only. -/
def openRecord (name : String) (entries : List Entry) (other : Form) : Form := fun held json =>
  match json with
  | .object fields => do
    let own ← readFields entries held fields
    let others := fields.filter fun (name, _) => !(entries.map Entry.name).contains name
    match ← table other true (.object others) with
    | .object others => return Json.ofFields (own ++ others)
    | json => return json
  | _ => .error (.kind json ("struct " ++ name))

end Form

end LintRelay.Server

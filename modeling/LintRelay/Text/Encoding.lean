/-!
# Encodings

The output of a process is bytes. It is read as UTF-8, and every maximal part that cannot begin a
valid character is read as one replacement character. Editors count the characters of a line in
UTF-16 code units: one for a character below U+10000, and two for every other.
-/

namespace LintRelay.Text

/-! ## UTF-8 -/

/-- The character that stands for bytes that are no character. -/
def replacement : Char := '�'

/-- The number of bytes of a text in UTF-8. -/
def byteCount (text : List Char) : Nat := text.foldr (fun c n => c.utf8Size + n) 0

/-- The form of a character by its first byte: the number of bytes that follow, the bits of the
first byte, and the range of the second byte. -/
def utf8Form? (b : Nat) : Option (Nat × Nat × Nat × Nat) :=
  if b < 0x80 then some (0, b, 0, 0)
  else if 0xC2 ≤ b ∧ b ≤ 0xDF then some (1, b - 0xC0, 0x80, 0xBF)
  else if b = 0xE0 then some (2, b - 0xE0, 0xA0, 0xBF)
  else if b = 0xED then some (2, b - 0xE0, 0x80, 0x9F)
  else if 0xE1 ≤ b ∧ b ≤ 0xEF then some (2, b - 0xE0, 0x80, 0xBF)
  else if b = 0xF0 then some (3, b - 0xF0, 0x90, 0xBF)
  else if 0xF1 ≤ b ∧ b ≤ 0xF3 then some (3, b - 0xF0, 0x80, 0xBF)
  else if b = 0xF4 then some (3, b - 0xF0, 0x80, 0x8F)
  else none

/-- The state of the decoder between two bytes: nothing, or a character of which `missing` bytes are
still to come, with the bits so far and the range of the next byte. -/
inductive Utf8State where
  | start
  | within (missing bits low high : Nat)

/-- Reads one byte at the start of a character. -/
def utf8Begin (b : Nat) : List Char × Utf8State :=
  match utf8Form? b with
  | none => ([replacement], .start)
  | some (0, bits, _, _) => ([Char.ofNat bits], .start)
  | some (missing, bits, low, high) => ([], .within missing bits low high)

/-- Reads one byte. A byte that does not continue a character ends it as a replacement, and is read
anew. -/
def utf8Step : Utf8State → Nat → List Char × Utf8State
  | .start, b => utf8Begin b
  | .within missing bits low high, b =>
    if low ≤ b ∧ b ≤ high then
      let bits := bits * 64 + (b - 0x80)
      if missing ≤ 1 then ([Char.ofNat bits], .start)
      else ([], .within (missing - 1) bits 0x80 0xBF)
    else
      let (chars, state) := utf8Begin b
      (replacement :: chars, state)

/-- Decodes bytes from a state of the decoder. -/
def utf8From : Utf8State → List UInt8 → List Char
  | .start, [] => []
  | .within .., [] => [replacement]
  | state, b :: rest =>
    let (chars, next) := utf8Step state b.toNat
    chars ++ utf8From next rest

/-- The text of bytes. -/
def decodeUtf8 (bytes : List UInt8) : String := String.ofList (utf8From .start bytes)

/-! ## UTF-16 -/

/-- The number of UTF-16 units of one character. -/
def charUnits (c : Char) : Nat := if c.toNat < 0x10000 then 1 else 2

/-- The number of UTF-16 units of a text. -/
def units (cs : List Char) : Nat := cs.foldr (fun c n => charUnits c + n) 0

end LintRelay.Text

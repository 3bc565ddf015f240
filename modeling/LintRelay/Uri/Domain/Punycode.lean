/-!
# Labels in ASCII

A label of a domain with characters beyond ASCII is written in ASCII: its ASCII characters first,
and then, as numbers of variable length, where the others go. The others come in ascending order; a
number tells how many places and characters are passed over since the one before. Its digits are
letters and decimal digits, lowest first, and each has a threshold that adapts to the numbers
before: a digit below it ends the number.
-/

namespace LintRelay.Uri.Punycode

/-- The letter of a digit. -/
def digitChar (d : Nat) : Char := if d < 26 then Char.ofNat (97 + d) else Char.ofNat (22 + d)

/-- The value of a digit. -/
def digitValue? (c : Char) : Option Nat :=
  if 'a' ≤ c ∧ c ≤ 'z' then some (c.toNat - 97)
  else if 'A' ≤ c ∧ c ≤ 'Z' then some (c.toNat - 65)
  else if '0' ≤ c ∧ c ≤ '9' then some (c.toNat - 22)
  else none

/-- The threshold of the digit at a place, where places count by 36. -/
def threshold (place bias : Nat) : Nat :=
  if place ≤ bias then 1 else if bias + 26 ≤ place then 26 else place - bias

/-- Divides a number by 35 until it is small, and counts by 36; `fuel` bounds the divisions. -/
def shrink : (fuel : Nat) → Nat → Nat → Nat × Nat
  | 0, delta, count => (delta, count)
  | fuel + 1, delta, count =>
    if 455 < delta then shrink fuel (delta / 35) (count + 36) else (delta, count)

/-- The bias after a number, when that many characters are in place. -/
def adapt (delta characters : Nat) (isFirst : Bool) : Nat :=
  let delta := if isFirst then delta / 700 else delta / 2
  let delta := delta + delta / characters
  let (delta, count) := shrink delta delta 0
  count + 36 * delta / (delta + 38)

/-- The bias before the first number. -/
def initialBias : Nat := 72

/-- The first character beyond ASCII. -/
def firstOther : Nat := 128

/-! ## Writing -/

/-- The digits of a number; `fuel` bounds how many there are. -/
def writeNumber (bias : Nat) : (fuel : Nat) → (place : Nat) → Nat → List Char
  | 0, _, _ => []
  | fuel + 1, place, n =>
    let t := threshold place bias
    if n < t then [digitChar n]
    else digitChar (t + (n - t) % (36 - t)) ::
      writeNumber bias fuel (place + 36) ((n - t) / (36 - t))

/-- The state of the writer. -/
structure Writer where
  /-- What is written, in reverse. -/
  done : List Char
  /-- What was passed over since the last number. -/
  delta : Nat
  /-- The bias. -/
  bias : Nat
  /-- The number of characters in place. -/
  placed : Nat

/-- Passes over a character of the label, or writes the number of its place if it is the one whose
turn it is. -/
def Writer.see (first turn : Nat) (w : Writer) (c : Char) : Writer :=
  if c.toNat < turn then { w with delta := w.delta + 1 }
  else if c.toNat = turn then
    { done := (writeNumber w.bias (w.delta + 1) 36 w.delta).reverse ++ w.done
      delta := 0
      bias := adapt w.delta (w.placed + 1) (w.placed = first)
      placed := w.placed + 1 }
  else w

/-- Writes the places of the characters whose turn comes, in ascending order. -/
def writeFrom (label : List Char) (first : Nat) : (next : Nat) → Writer → List Nat → Writer
  | _, w, [] => w
  | next, w, turn :: rest =>
    let w := { w with delta := w.delta + (turn - next) * (w.placed + 1) }
    let w := label.foldl (Writer.see first turn) w
    writeFrom label first (turn + 1) { w with delta := w.delta + 1 } rest

/-- A label in ASCII, without its mark. -/
def encode (label : List Char) : List Char :=
  let plain := label.filter (·.toNat < firstOther)
  let others := ((label.map Char.toNat).filter (firstOther ≤ ·)).mergeSort.eraseReps
  let w := writeFrom label plain.length firstOther ⟨[], 0, initialBias, plain.length⟩ others
  plain ++ (if plain = [] then [] else ['-']) ++ w.done.reverse

/-! ## Reading -/

/-- The state of the reader. -/
structure Reader where
  /-- The characters in place. -/
  label : List Char
  /-- The character whose turn it is. -/
  turn : Nat
  /-- The place of the last character, plus one, and what was read of the number since. -/
  position : Nat
  /-- The position before the number. -/
  before : Nat
  /-- The bias. -/
  bias : Nat
  /-- The weight of the next digit. -/
  weight : Nat
  /-- The place of the next digit. -/
  place : Nat

/-- Puts the next character in its place, after a number. -/
def Reader.insert? (r : Reader) : Option Reader :=
  let count := r.label.length + 1
  let turn := r.turn + r.position / count
  let position := r.position % count
  if turn.isValidChar then
    some { label := r.label.take position ++ Char.ofNat turn :: r.label.drop position
           turn
           position := position + 1
           before := position + 1
           bias := adapt (r.position - r.before) count (r.before = 0)
           weight := 1
           place := 36 }
  else none

/-- Reads a digit. -/
def Reader.step? (r : Reader) (c : Char) : Option Reader :=
  match digitValue? c with
  | none => none
  | some d =>
    let t := threshold r.place r.bias
    let r := { r with position := r.position + d * r.weight }
    if d < t then r.insert?
    else some { r with weight := r.weight * (36 - t), place := r.place + 36 }

/-- The label that a text in ASCII stands for. What stands before the last hyphen is taken as it is;
the numbers after it have to be complete. -/
def decode? (text : List Char) : Option (List Char) :=
  let digits := (text.reverse.takeWhile (· ≠ '-')).reverse
  let plain := text.take (text.length - digits.length - 1)
  let digits := if plain = [] then text else digits
  match digits.foldlM Reader.step? ⟨plain, firstOther, 0, 0, initialBias, 1, 36⟩ with
  | some r => if r.place = 36 then some r.label else none
  | none => none

end LintRelay.Uri.Punycode

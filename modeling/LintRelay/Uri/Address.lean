import LintRelay.Text.Digit

/-!
# Addresses of hosts

A host can be named by its address. A short address is a number of 32 bits: up to four parts with
dots between them, of which the last one fills what the others leave, in decimal, octal or
hexadecimal digits. A long address is eight groups of 16 bits in hexadecimal digits with colons
between them, where one run of zeros may be left out; the last two groups may be written as a short
address.
-/

namespace LintRelay.Uri

/-! ## Short addresses -/

/-- The number that digits of a base spell. -/
def numberIn? (base : Nat) (digits : List Char) : Option Nat :=
  digits.foldlM (fun n c => match Text.hexValue? c with
    | some d => if d < base then some (base * n + d) else none
    | none => none) 0

/-- The number that a part of a short address spells. -/
def partNumber? : List Char → Option Nat
  | [] => none
  | '0' :: 'x' :: digits => numberIn? 16 digits
  | '0' :: 'X' :: digits => numberIn? 16 digits
  | '0' :: d :: digits => numberIn? 8 (d :: digits)
  | digits => numberIn? 10 digits

/-- The parts of a host; a dot at its end does not count. -/
def hostParts (host : List Char) : List (List Char) :=
  let parts := host.splitOn '.'
  if parts.getLast? = some [] then parts.dropLast else parts

/-- Whether a host ends in a number, so that it has to be a short address. -/
def endsInNumber (host : List Char) : Bool :=
  match (hostParts host).getLast? with
  | some part => (part ≠ [] && part.all Char.isDigit) || (partNumber? part).isSome
  | none => false

/-- The bound of the last part of a short address after that many others. -/
def lastPartBound : Nat → Nat
  | 0 => 0x100000000
  | 1 => 0x1000000
  | 2 => 0x10000
  | _ => 0x100

/-- The number of 32 bits that a short address is. -/
def shortAddress? (host : List Char) : Option Nat := do
  let numbers ← (hostParts host).mapM partNumber?
  let last ← numbers.getLast?
  let front := numbers.dropLast
  if 3 < front.length || front.any (255 < ·) || lastPartBound front.length ≤ last then none
  else return front.foldr (fun n low => n * 0x1000000 + low / 0x100) 0 + last

/-- The text of a short address. -/
def shortAddressText (n : Nat) : List Char :=
  List.intercalate ['.'] ([n / 0x1000000, n / 0x10000 % 0x100, n / 0x100 % 0x100, n % 0x100].map
    fun part => (toString part).toList)

/-! ## Long addresses -/

/-- A group of a long address. -/
def group? (digits : List Char) : Option Nat :=
  if digits = [] || 4 < digits.length then none else numberIn? 16 digits

/-- A byte in decimal digits, without zeros in front. -/
def byte? (digits : List Char) : Option Nat :=
  if digits = [] || 3 < digits.length || (digits.head? = some '0' && digits ≠ ['0']) then none
  else
    match numberIn? 10 digits with
    | some n => if n < 0x100 then some n else none
    | none => none

/-- The last two groups of a long address as a short one. -/
def groupPair? (text : List Char) : Option (List Nat) :=
  match (text.splitOn '.').mapM byte? with
  | some [a, b, c, d] => some [a * 0x100 + b, c * 0x100 + d]
  | _ => none

/-- Groups with colons between them; the last one may be two as a short address if nothing follows.
-/
def groups? (isLast : Bool) (text : List Char) : Option (List Nat) :=
  if text = [] then some []
  else
    let parts := text.splitOn ':'
    let final := parts.getLast?.getD []
    if isLast && final.contains '.' then
      match parts.dropLast.mapM group?, groupPair? final with
      | some front, some pair => some (front ++ pair)
      | _, _ => none
    else parts.mapM group?

/-- Text up to the first two colons, and the text after them. -/
def splitGap? : List Char → Option (List Char × List Char)
  | [] => none
  | ':' :: ':' :: rest => some ([], rest)
  | c :: rest => (splitGap? rest).map fun (before, after) => (c :: before, after)

/-- The eight groups of a long address. -/
def longAddress? (text : List Char) : Option (List Nat) :=
  match splitGap? text with
  | none =>
    match groups? true text with
    | some groups => if groups.length = 8 then some groups else none
    | none => none
  | some (before, after) =>
    match groups? false before, groups? true after with
    | some front, some back =>
      if front.length + back.length < 8 then
        some (front ++ List.replicate (8 - front.length - back.length) 0 ++ back)
      else none
    | _, _ => none

/-- The number of zeros at the front of groups. -/
def zerosAhead (groups : List Nat) : Nat := (groups.takeWhile (· = 0)).length

/-- The place and length of the first of the longest runs of zeros, from a place on. -/
def longestZeros (place : Nat) : List Nat → Nat × Nat
  | [] => (place, 0)
  | g :: rest =>
    let (later, length) := longestZeros (place + 1) rest
    if length ≤ zerosAhead (g :: rest) then (place, zerosAhead (g :: rest)) else (later, length)

/-- Groups with colons between them, in hexadecimal digits. -/
def groupsText (groups : List Nat) : List Char :=
  List.intercalate [':'] (groups.map (Nat.toDigits 16))

/-- The text of a long address. The first of the longest runs of at least two zeros is left out. -/
def longAddressText (groups : List Nat) : List Char :=
  let (place, length) := longestZeros 0 groups
  if length < 2 then groupsText groups
  else groupsText (groups.take place) ++ [':', ':'] ++ groupsText (groups.drop (place + length))

end LintRelay.Uri

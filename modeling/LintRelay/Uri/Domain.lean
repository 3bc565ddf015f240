import LintRelay.Text.Canonical
import LintRelay.Uri.Domain.Chart
import LintRelay.Uri.Domain.Punycode

/-!
# Domains

A domain is a sequence of labels with dots between them. `Domain.ofText?` gives the form of a domain
that is written in ASCII: characters that stand for others are replaced, the text is composed, and
labels with other characters are written in ASCII after a mark. A label that has the mark already
has to stand for one that needs it. Labels may not begin with a mark on another character, may hold
joiners only where letters join, and have to read well if some label is written from right to left.
-/

namespace LintRelay.Uri.Domain

open Text (compose isMark combiningClass ChartEntry)

/-! ## Characters -/

/-- Whether a character of ASCII may not stand in a domain. -/
def isForbidden (c : Char) : Bool :=
  c.toNat ≤ 0x20 || c.toNat = 0x7F
    || ['#', '%', '/', ':', '<', '>', '?', '@', '[', '\\', ']', '^', '|'].contains c

/-- What a character stands for; none if it may not be written. -/
def replacement? (c : Char) : Option (List Char) :=
  if c.toNat < 0x80 then some [c.toLower]
  else if !allowedChart.lists c then none
  else
    match replacedChart.entry? c with
    | some e => some ((e.numbersAt c).map Char.ofNat)
    | none => some (if ignoredChart.lists c then [] else [c])

/-- Whether a character stands for itself. -/
def isPlain (c : Char) : Bool := replacement? c = some [c]

/-! ## Directions -/

/-- How a character is written. -/
inductive Direction where
  | leftToRight
  | rightToLeft
  | arabicNumber
  | europeanNumber
  /-- In the direction around it. -/
  | neutral
  /-- On another character. -/
  | mark
deriving DecidableEq, Repr

/-- The direction of a character. -/
def direction (c : Char) : Direction :=
  match (directionChart.entry? c).map ChartEntry.number with
  | none => .leftToRight
  | some 0 => .rightToLeft
  | some 1 => .arabicNumber
  | some 2 => .europeanNumber
  | some 3 => .neutral
  | some _ => .mark

/-- Whether a label has characters that are written from right to left. -/
def hasRightToLeft (label : List Char) : Bool :=
  label.any fun c => direction c = .rightToLeft || direction c = .arabicNumber

/-- Whether a label reads well next to labels from right to left: its first character tells its
direction, its last one that is no mark keeps it, and nothing of the other direction is in between,
nor numbers of both kinds. -/
def readsWell (label : List Char) : Bool :=
  let directions := label.map direction
  let last := directions.reverse.dropWhile (· = .mark)
  match directions.head? with
  | none => true
  | some .leftToRight =>
    directions.all (fun d => d ≠ .rightToLeft && d ≠ .arabicNumber)
      && last.head?.any (fun d => d = .leftToRight || d = .europeanNumber)
  | some .rightToLeft =>
    directions.all (· ≠ .leftToRight)
      && last.head?.any (fun d => d ≠ .neutral)
      && !(directions.contains .europeanNumber && directions.contains .arabicNumber)
  | some _ => false

/-! ## Joiners -/

/-- How a letter joins with its neighbours. -/
inductive Joining where
  | both
  | left
  | right
  | none
  /-- It is passed over. -/
  | transparent
deriving DecidableEq, Repr

/-- Characters that are passed over when letters join, though they are not written as marks. -/
def transparentLetters : List Nat := [0xCBF, 0xCC6, 0x11A07, 0x11A08, 0x11C3F, 0x1E94B]

/-- How a character joins. -/
def joining (c : Char) : Joining :=
  if direction c = .mark || transparentLetters.contains c.toNat then .transparent
  else
    match (joiningChart.entry? c).map ChartEntry.number with
    | Option.none => .none
    | some 0 => .both
    | some 1 => .left
    | some _ => .right

/-- The sign that keeps letters apart. -/
def nonJoiner : Char := '\u200c'

/-- The sign that joins letters. -/
def joiner : Char := '\u200d'

/-- The combining class of signs that take a vowel away. -/
def viramaClass : Nat := 9

/-- The joining of the nearest character that is not passed over. -/
def nearestJoining (text : List Char) : Joining :=
  match (text.map joining).dropWhile (· = .transparent) with
  | [] => .none
  | j :: _ => j

/-- Whether all joiners are in place, where `before` is what stands before them, in reverse: after a
sign that takes a vowel away, or, if they keep letters apart, between letters that would join. -/
def joinersInPlace (before : List Char) : List Char → Bool
  | [] => true
  | c :: rest =>
    let afterVirama := before.head?.any (combiningClass · = viramaClass)
    let between :=
      let previous := nearestJoining before
      let next := nearestJoining rest
      (previous = .left || previous = .both) && (next = .right || next = .both)
    (if c = nonJoiner then afterVirama || between else if c = joiner then afterVirama else true)
      && joinersInPlace (c :: before) rest

/-! ## Labels -/

/-- The mark of a label that is written in ASCII. -/
def asciiMark : List Char := ['x', 'n', '-', '-']

/-- The greatest length of a label that is written in ASCII. -/
def labelLimit : Nat := 1000

/-- The greatest length of a label in ASCII. -/
def codeLimit : Nat := 2000

/-- Whether a text is in ASCII. -/
def isAscii (text : List Char) : Bool := text.all (·.toNat < 0x80)

/-- What a label stands for: itself, or what it says in ASCII after the mark. That has to be a label
in composed form that needs the mark. -/
def label? (text : List Char) : Option (List Char) :=
  if asciiMark.isPrefixOf text then
    let code := text.drop asciiMark.length
    match if isAscii code && code.length ≤ codeLimit then Punycode.decode? code else none with
    | some label =>
      if !isAscii label && label.all isPlain && compose label = label then some label else none
    | none => none
  else some text

/-- Whether a label is well-formed on its own. -/
def isWellFormed (label : List Char) : Bool :=
  !label.head?.any isMark && joinersInPlace [] label
    && (isAscii label || label.length ≤ labelLimit)

/-- A label in ASCII. -/
def labelText (label : List Char) : List Char :=
  if isAscii label then label else asciiMark ++ Punycode.encode label

/-- The domain that a text is, in ASCII. -/
def ofText? (text : List Char) : Option (List Char) := do
  let plain := compose (← text.mapM replacement?).flatten
  let labels ← (plain.splitOn '.').mapM label?
  if plain.any isForbidden || !labels.all isWellFormed then none
  else if labels.any hasRightToLeft && !labels.all readsWell then none
  else return List.intercalate ['.'] (labels.map labelText)

end LintRelay.Uri.Domain

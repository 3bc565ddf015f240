import LintRelay.Text.Canonical.Chart

/-!
# Canonical composition

A letter with marks can be written in several ways. `Text.compose` gives the one with the fewest
characters: letters are taken apart, marks are put in the order of their classes, and what can be
joined is joined. Korean syllables are composed of two or three parts by a rule of their own.

The chart holds the characters that are joined again. Others that stand for several are expected to
be replaced by what they stand for before.
-/

namespace LintRelay.Text

/-- Whether a character combines with the one before it. -/
def isMark (c : Char) : Bool := markChart.lists c

/-- The combining class of a character; zero for one that others combine with. -/
def combiningClass (c : Char) : Nat :=
  if c.toNat < 0x300 then 0 else ((classChart.entry? c).map ChartEntry.number).getD 0

/-! ## Korean syllables -/

/-- The first syllable. -/
def syllableBase : Nat := 0xAC00

/-- The number of syllables. -/
def syllableCount : Nat := 11172

/-- The first leading part; there are 19. -/
def leadBase : Nat := 0x1100

/-- The first vowel; there are 21. -/
def vowelBase : Nat := 0x1161

/-- The place before the first trailing part; there are 27. -/
def trailBase : Nat := 0x11A7

/-- The two parts of a syllable: its lead and its vowel, or the syllable of these and its trail. -/
def syllableParts? (c : Char) : Option (Char × Char) :=
  let n := c.toNat - syllableBase
  if c.toNat < syllableBase ∨ syllableCount ≤ n then none
  else if n % 28 = 0 then
    some (Char.ofNat (leadBase + n / 588), Char.ofNat (vowelBase + n % 588 / 28))
  else some (Char.ofNat (c.toNat - n % 28), Char.ofNat (trailBase + n % 28))

/-- The syllable of two parts. -/
def syllable? (a b : Char) : Option Char :=
  let lead := a.toNat - leadBase
  let vowel := b.toNat - vowelBase
  let whole := a.toNat - syllableBase
  let trail := b.toNat - trailBase
  if leadBase ≤ a.toNat ∧ lead < 19 ∧ vowelBase ≤ b.toNat ∧ vowel < 21 then
    some (Char.ofNat (syllableBase + (lead * 21 + vowel) * 28))
  else if syllableBase ≤ a.toNat ∧ whole < syllableCount ∧ whole % 28 = 0
      ∧ 0 < trail ∧ trail < 28 then
    some (Char.ofNat (a.toNat + trail))
  else none

/-! ## Taking apart and joining -/

/-- The two characters that a character stands for. -/
def parts? (c : Char) : Option (Char × Char) :=
  match syllableParts? c with
  | some parts => some parts
  | none =>
    match (pairChart.entry? c).bind fun e => (e.values[c.toNat - e.first]?) with
    | some [a, b] => some (Char.ofNat a, Char.ofNat b)
    | _ => none

/-- The character to which an entry gives two characters. -/
def joinedIn? (a b : Char) (e : ChartEntry) : Option Char :=
  (e.values.findIdx? (· = [a.toNat, b.toNat])).map fun i => Char.ofNat (e.first + i)

/-- The character that stands for two. -/
def joined? (a b : Char) : Option Char :=
  match syllable? a b with
  | some c => some c
  | none => pairChart.findSome? (joinedIn? a b)

/-- A character taken apart; `fuel` bounds the number of steps. -/
def takeApart : (fuel : Nat) → Char → List Char
  | 0, c => [c]
  | fuel + 1, c =>
    match parts? c with
    | some (a, b) => takeApart fuel a ++ [b]
    | none => [c]

/-- Puts a mark behind a text in reverse, before the marks with a greater class at its end. -/
def placeMark (c : Char) : List Char → List Char
  | [] => [c]
  | d :: rest =>
    if combiningClass c < combiningClass d then d :: placeMark c rest else c :: d :: rest

/-- A text with its marks in the order of their classes. -/
def orderMarks (text : List Char) : List Char :=
  let put (done : List Char) (c : Char) : List Char :=
    if combiningClass c = 0 then c :: done else placeMark c done
  (text.foldl put []).reverse

/-- Joins a text, after a character and the marks behind it that did not join with it, in reverse.
-/
def joinFrom (base : Char) (marks : List Char) : List Char → List Char
  | [] => base :: marks.reverse
  | c :: rest =>
    let reaches := match marks with
      | [] => true
      | d :: _ => combiningClass d < combiningClass c
    match if reaches then joined? base c else none with
    | some whole => joinFrom whole marks rest
    | none =>
      if combiningClass c = 0 then base :: marks.reverse ++ joinFrom c [] rest
      else joinFrom base (c :: marks) rest

/-- Joins what can be joined in a text. -/
def joinAll : List Char → List Char
  | [] => []
  | c :: rest => if combiningClass c = 0 then joinFrom c [] rest else c :: joinAll rest

/-- The composed form of a text. Five steps take every character apart. -/
def compose (text : List Char) : List Char :=
  if text.all (·.toNat < 0x300) then text else joinAll (orderMarks (text.flatMap (takeApart 5)))

end LintRelay.Text

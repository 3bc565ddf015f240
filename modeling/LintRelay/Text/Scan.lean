/-!
# Reading text from the front

White space, occurrences of one text in another, and small readers for lines of output, all over
lists of characters. A blank is a character with the Unicode property `White_Space`: analyzer output
is read and positions are computed with this class, and not with the five ASCII blanks alone.

A reader takes what it recognises from the front of a text and gives the rest, or fails. Where a
line begins with free text, `shortestHead` and `longestHead` settle how much of it belongs to that
text: the least, or the most, after which the rest of the line can still be read.
-/

namespace LintRelay.Text

/-! ## White space -/

/-- The ranges of `White_Space`, ends included, in ascending order. -/
def blankRanges : List (Nat × Nat) :=
  [(0x09, 0x0D), (0x20, 0x20), (0x85, 0x85), (0xA0, 0xA0), (0x1680, 0x1680), (0x2000, 0x200A),
    (0x2028, 0x2029), (0x202F, 0x202F), (0x205F, 0x205F), (0x3000, 0x3000)]

/-- Whether `c` lies in one of the ranges, ends included. -/
def inRanges (ranges : List (Nat × Nat)) (c : Char) : Bool :=
  ranges.any fun (first, last) => first ≤ c.toNat && c.toNat ≤ last

/-- Whether `c` is white space. -/
def isBlank (c : Char) : Bool := inRanges blankRanges c

/-- The text without the blanks at its two ends. -/
def trim (cs : List Char) : List Char :=
  ((cs.dropWhile isBlank).reverse.dropWhile isBlank).reverse

/-! ## Searching -/

/-- What follows `head` in `cs`, when `cs` begins with it. -/
def after? : (head cs : List Char) → Option (List Char)
  | [], cs => some cs
  | _ :: _, [] => none
  | h :: head, c :: cs => if h = c then after? head cs else none

/-- What follows the first occurrence of `needle` in `cs`. -/
def afterFirst? (needle : List Char) : List Char → Option (List Char)
  | [] => after? needle []
  | c :: cs => (after? needle (c :: cs)) <|> afterFirst? needle cs

/-- What precedes `tail` in `cs`, when `cs` ends with it. -/
def before? (tail cs : List Char) : Option (List Char) :=
  (after? tail.reverse cs.reverse).map List.reverse

/-- Whether `cs` begins with the text `head`. -/
def startsWith (head : String) (cs : List Char) : Bool := (after? head.toList cs).isSome

/-- Whether the text `needle` occurs in `cs`. -/
def contains (needle : String) (cs : List Char) : Bool := (afterFirst? needle.toList cs).isSome

/-- Whether `cs` ends with the text `tail`. -/
def endsWith (tail : String) (cs : List Char) : Bool := (before? tail.toList cs).isSome

/-- Whether `cs` is one line, that is, holds no newline. -/
def isLine (cs : List Char) : Bool := cs.all (· ≠ '\n')

/-! ## Readers -/

variable {α : Type}

/-- What follows one blank. -/
def blank? : List Char → Option (List Char)
  | [] => none
  | c :: rest => if isBlank c then some rest else none

/-- A run of digits, at least one, and what follows it. -/
def digits? (isDigit : Char → Bool) (cs : List Char) : Option (List Char × List Char) :=
  if cs.takeWhile isDigit = [] then none
  else some (cs.takeWhile isDigit, cs.dropWhile isDigit)

/-- What follows the given text. -/
def expect? (text : String) (cs : List Char) : Option (List Char) := after? text.toList cs

/-- The first of the given words that stands in front, and what follows it. -/
def oneOf? (words : List String) (cs : List Char) : Option (String × List Char) :=
  words.findSome? fun word => (expect? word cs).map fun rest => (word, rest)

/-- The whole text, if it is one line. -/
def line? (cs : List Char) : Option (List Char) := if isLine cs then some cs else none

/-- The whole text, if it is one line and not empty. -/
def nonemptyLine? (cs : List Char) : Option (List Char) := if cs = [] then none else line? cs

/-- The shortest head without newline, at least one character, after which `read` succeeds. -/
def shortestHead (read : List Char → Option α) : List Char → Option (List Char × α)
  | [] => none
  | c :: rest =>
    if c = '\n' then none
    else
      match read rest with
      | some a => some ([c], a)
      | none => (shortestHead read rest).map fun (head, a) => (c :: head, a)

/-- The longest head of characters that `allowed` accepts, at least one, after which `read`
succeeds. -/
def longestHead (allowed : Char → Bool) (read : List Char → Option α) :
    List Char → Option (List Char × α)
  | [] => none
  | c :: rest =>
    if allowed c then
      match longestHead allowed read rest with
      | some (head, a) => some (c :: head, a)
      | none => (read rest).map fun a => ([c], a)
    else none

end LintRelay.Text

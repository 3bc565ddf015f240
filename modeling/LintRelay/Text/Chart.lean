import LintRelay.Text.Digit

/-!
# Charts of characters

A chart lists characters, and perhaps what stands for them. It is written as a text of entries with
blanks between them, in hexadecimal numbers:

* `41`, `41-5A` and `41~5A`: one character, all from one to another, and every second of them;
* `41-5A:61`: the same with a value;
* `41:61,62+63`: values for consecutive characters, where a value may be several numbers.

What a value means is the matter of the chart: the same for all characters of an entry, or moving
along with them.
-/

namespace LintRelay.Text

/-- An entry of a chart. -/
structure ChartEntry where
  /-- The first character. -/
  first : Nat
  /-- The last character. -/
  last : Nat
  /-- Whether only every second character is meant. -/
  sparse : Bool
  /-- The values. -/
  values : List (List Nat)
deriving Repr

namespace ChartEntry

/-- Whether an entry is about a character. -/
def covers (e : ChartEntry) (c : Char) : Bool :=
  e.first ≤ c.toNat && c.toNat ≤ e.last && (!e.sparse || (c.toNat - e.first) % 2 = 0)

/-- The number that an entry gives to all its characters. -/
def number (e : ChartEntry) : Nat := (e.values.head?.bind List.head?).getD 0

/-- The numbers that an entry gives to one of its characters: its own among several, and otherwise
the only one, moved along. -/
def numbersAt (e : ChartEntry) (c : Char) : List Nat :=
  let offset := c.toNat - e.first
  match e.values with
  | [value] => value.map (· + offset)
  | values => (values[offset]?).getD []

/-- An entry as it is written. -/
def ofText (text : List Char) : ChartEntry :=
  let head := text.takeWhile (· ≠ ':')
  let tail := (text.dropWhile (· ≠ ':')).drop 1
  let values := if tail = [] then [] else
    (tail.splitOn ',').map fun value => (value.splitOn '+').map hexNumber
  let first := hexNumber (head.takeWhile isHexDigit)
  match head.dropWhile isHexDigit with
  | '-' :: last => ⟨first, hexNumber last, false, values⟩
  | '~' :: last => ⟨first, hexNumber last, true, values⟩
  | _ => ⟨first, first + (values.length - 1), false, values⟩

end ChartEntry

/-- A chart. -/
abbrev Chart := List ChartEntry

namespace Chart

/-- A chart as it is written. -/
def ofText (text : String) : Chart :=
  ((text.toList.splitOnP fun c => c = ' ' || c = '\n').filter (· ≠ [])).map ChartEntry.ofText

/-- The entry about a character. -/
def entry? (chart : Chart) (c : Char) : Option ChartEntry := chart.find? (·.covers c)

/-- Whether a chart lists a character. -/
def lists (chart : Chart) (c : Char) : Bool := (chart.entry? c).isSome

end Chart

end LintRelay.Text

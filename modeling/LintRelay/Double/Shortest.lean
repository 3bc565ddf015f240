import LintRelay.Double

/-!
# The shortest text of a double

`Double.shortest` gives the fewest decimal digits that read back as a double, and of those the
nearest to it. `Double.text` writes them: with a point if the number is neither too large nor too
small, and otherwise with an exponent.
-/

namespace LintRelay.Double

/-- The decimal digits of a number, and the place of the point: `0.d₁d₂… · 10^point`. -/
structure Decimal where
  /-- The digits, without zeros at either end. -/
  digits : Nat
  /-- The place of the point. -/
  point : Int
deriving DecidableEq, Repr

/-- The number of decimal digits. -/
def digitCount (n : Nat) : Nat := (Nat.toDigits 10 n).length

/-- The place of the point of a positive quotient. -/
def pointOf (num den : Nat) : Int :=
  if den ≤ num then digitCount (num / den)
  else 1 - (digitCount ((den + num - 1) / num - 1) : Int)

/-- The numbers that are rounded to a double, as two bounds in quarters of its last bit. -/
def bounds (x : Double) : Nat × Nat :=
  (4 * x.mantissa - (if x.mantissa = normal ∧ leastExponent < x.exponent then 1 else 2),
    4 * x.mantissa + 2)

/-- Whether `digits · 10^power` is rounded to a double. -/
def readsBack (x : Double) (digits : Nat) (power : Int) : Bool :=
  let (num, den) := if power < 0 then (digits, Nat.pow 10 (-power).toNat)
    else (digits * Nat.pow 10 power.toNat, 1)
  let (n, d) := scale (4 * num) den (-x.exponent)
  let (low, high) := x.bounds
  if x.mantissa % 2 = 0 then low * d ≤ n && n ≤ high * d else low * d < n && n < high * d

/-- The number with `count` digits nearest to a double, if it reads back as the double. -/
def withDigits? (x : Double) (point : Int) (count : Nat) : Option Nat :=
  let (num, den) := x.quotient
  let power := point - count
  let (n, d) := if power < 0 then (num * Nat.pow 10 (-power).toNat, den)
    else (num, den * Nat.pow 10 power.toNat)
  let digits := nearest n d
  let other := if digits * d ≤ n then digits + 1 else digits - 1
  if x.readsBack digits power then some digits
  else if x.readsBack other power then some other
  else none

/-- The number without the zeros at its end; `fuel` bounds their number. -/
def dropZeros : (fuel : Nat) → Nat → Nat
  | 0, n => n
  | fuel + 1, n => if n ≠ 0 ∧ n % 10 = 0 then dropZeros fuel (n / 10) else n

/-- The fewest digits that read back as a positive double. Seventeen always do. -/
def shortest (x : Double) : Decimal :=
  let point := pointOf x.quotient.1 x.quotient.2
  let attempt (i : Nat) : Option (Nat × Nat) :=
    (x.withDigits? point (i + 1)).map fun n => (n, i + 1)
  match (List.range 17).findSome? attempt with
  | some (n, count) =>
    ⟨dropZeros count n, if digitCount n = count then point else point + 1⟩
  | none => ⟨x.mantissa, point⟩

/-- The text of a decimal number. The point stands among the digits, or among zeros around them, if
it is at most 16 places behind the first digit or 4 before it. -/
def Decimal.text (d : Decimal) : String :=
  let ds := Nat.toDigits 10 d.digits
  let zeros (n : Int) : List Char := List.replicate n.toNat '0'
  String.ofList <|
    if 0 < d.point ∧ d.point ≤ 16 then
      let whole := ds.take d.point.toNat ++ zeros (d.point - ds.length)
      let frac := ds.drop d.point.toNat
      whole ++ '.' :: (if frac = [] then ['0'] else frac)
    else if -5 < d.point ∧ d.point ≤ 0 then ['0', '.'] ++ zeros (-d.point) ++ ds
    else
      let exponent := d.point - 1
      ds.take 1 ++ (if ds.length = 1 then [] else '.' :: ds.drop 1) ++ ['e']
        ++ [if exponent < 0 then '-' else '+'] ++ Nat.toDigits 10 exponent.natAbs

/-- The text of a double. -/
def text (x : Double) : String := if x.mantissa = 0 then "0.0" else x.shortest.text

end LintRelay.Double

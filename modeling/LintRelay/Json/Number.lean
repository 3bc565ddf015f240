import LintRelay.Double.Shortest
import LintRelay.Json
import LintRelay.Text.Digit

/-!
# Numbers in JSON text

A number that is written as an integer and fits in 64 bits is that integer. Every other number is
rounded to a double and kept as the shortest text of the double; one that is too large for a double
is no number.
-/

namespace LintRelay.Json

/-- The first number that no longer fits in 64 bits. -/
def longBound : Nat := 0x10000000000000000

/-- Adds digits to a number as long as it fits in 64 bits, and gives the digits that are left. -/
def takeDigits (n : Nat) : List Char → Nat × List Char
  | [] => (n, [])
  | c :: rest =>
    let m := 10 * n + Text.digitValue c
    if m < longBound then takeDigits m rest else (n, c :: rest)

/-- The value of a double with a sign. -/
def ofDouble (negative : Bool) (x : Double) : Json :=
  .real ((if negative then "-" else "") ++ x.text)

/-- The number after the `e` of a decimal number; zero if there is none. -/
def exponentOf (text : List Char) : Int :=
  match text.drop 1 with
  | '-' :: ds => -(Text.decimalValue ds : Int)
  | '+' :: ds => Text.decimalValue ds
  | ds => Text.decimalValue ds

/-- The value of a decimal number without its sign: digits, perhaps a point and digits, and perhaps
an `e` and a number. Digits beyond 64 bits do not count, apart from their place. -/
def ofDecimal? (negative : Bool) (text : List Char) : Option Json :=
  let (n, beyond) := takeDigits 0 (text.takeWhile Char.isDigit)
  match text.dropWhile Char.isDigit with
  | [] =>
    if beyond ≠ [] then (Double.ofDecimal? n beyond.length).map (ofDouble negative)
    else if !negative then some (.integer n)
    else if 0 < n ∧ n ≤ 0x8000000000000000 then some (.integer (-n))
    else (Double.ofQuotient? n 1).map (ofDouble true)
  | '.' :: rest =>
    let frac := rest.takeWhile Char.isDigit
    let (m, left) := takeDigits n frac
    let power : Int := beyond.length - (frac.length - left.length : Int)
    (Double.ofDecimal? m (power + exponentOf (rest.dropWhile Char.isDigit))).map (ofDouble negative)
  | tail => (Double.ofDecimal? n (beyond.length + exponentOf tail)).map (ofDouble negative)

end LintRelay.Json

/-!
# Doubles

The finite numbers of 53 bits to which numbers in a text are rounded, without their sign, and their
arithmetic: a result is the double nearest to the exact one, and of two the even one. A result that
lies beyond all doubles is none.
-/

namespace LintRelay

/-- The number `mantissa · 2^exponent`. -/
structure Double where
  /-- The bits, at most 53 of them. -/
  mantissa : Nat
  /-- The power of two, at least `-1074`; as small as the number of bits allows. -/
  exponent : Int
deriving DecidableEq, Repr

namespace Double

/-- The first mantissa with 53 bits. -/
def normal : Nat := 0x10000000000000

/-- The least exponent. -/
def leastExponent : Int := -1074

/-- The greatest exponent. -/
def greatestExponent : Int := 971

/-- The quotient of two numbers times a power of two, as numerator and denominator. -/
def scale (num den : Nat) (power : Int) : Nat × Nat :=
  if power < 0 then (num, den * Nat.pow 2 (-power).toNat) else (num * Nat.pow 2 power.toNat, den)

/-- The integer nearest to a quotient, and of two the even one. -/
def nearest (num den : Nat) : Nat :=
  let q := num / den
  let rest := 2 * (num % den)
  if den < rest ∨ (rest = den ∧ q % 2 = 1) then q + 1 else q

/-- The exponent with which a positive quotient has 53 bits, or the least one. -/
def exponentOf (num den : Nat) : Int :=
  let guess : Int := (Nat.log2 num : Int) - Nat.log2 den - 52
  let (n, d) := scale num den (-guess)
  let e := if n < normal * d then guess - 1 else guess
  if e < leastExponent then leastExponent else e

/-- The double nearest to a quotient. -/
def ofQuotient? (num den : Nat) : Option Double :=
  if num = 0 then some ⟨0, leastExponent⟩
  else
    let e := exponentOf num den
    let (n, d) := scale num den (-e)
    let m := nearest n d
    let (m, e) := if m = 2 * normal then (normal, e + 1) else (m, e)
    if greatestExponent < e then none else some ⟨m, e⟩

/-- The number as numerator and denominator. -/
def quotient (x : Double) : Nat × Nat := scale x.mantissa 1 x.exponent

/-- The product of two doubles. -/
def mul? (x y : Double) : Option Double :=
  ofQuotient? (x.quotient.1 * y.quotient.1) (x.quotient.2 * y.quotient.2)

/-- The quotient of two doubles. -/
def div? (x y : Double) : Option Double :=
  ofQuotient? (x.quotient.1 * y.quotient.2) (x.quotient.2 * y.quotient.1)

/-- The double nearest to a power of ten. -/
def powerOfTen? (n : Nat) : Option Double := ofQuotient? (Nat.pow 10 n) 1

/-! ## Decimal numbers -/

/-- The greatest power of ten that is a double. -/
def tenLimit : Nat := 308

/-- A double times a power of ten, by one multiplication or by divisions, each of them rounded;
`fuel` bounds the number of divisions by the greatest power. -/
def timesTen? : (fuel : Nat) → Double → (power : Int) → Option Double
  | fuel, x, power =>
    if power.natAbs ≤ tenLimit then
      if power < 0 then (powerOfTen? power.natAbs).bind x.div? else
        (powerOfTen? power.natAbs).bind x.mul?
    else if x.mantissa = 0 then some x
    else if 0 ≤ power then none
    else
      match fuel with
      | 0 => some ⟨0, leastExponent⟩
      | fuel + 1 =>
        ((powerOfTen? tenLimit).bind x.div?).bind fun y => timesTen? fuel y (power + tenLimit)

/-- The double for `digits · 10^power`. The digits are rounded before they are multiplied, so that
the result may be off by one in its last bit. Four divisions leave nothing of any number of 64 bits.
-/
def ofDecimal? (digits : Nat) (power : Int) : Option Double :=
  (ofQuotient? digits 1).bind fun x => timesTen? 4 x power

end Double

end LintRelay

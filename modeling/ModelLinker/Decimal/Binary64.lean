/-!
Finite binary floating point with 53 bits, in exact arithmetic on natural numbers. A quotient is
rounded to the nearest value, a tie to the even mantissa; a quotient too large for the format has
no value.
-/

namespace ModelLinker.Decimal

/-- The number `mantissa * 2 ^ exponent`, with a sign. The mantissa has 53 bits, or fewer when the
exponent is the least one. -/
structure Binary64 where
  negative : Bool
  mantissa : Nat
  exponent : Int
deriving DecidableEq, Repr

/-- The nearest natural number to a quotient; a tie goes to the even one. -/
def roundQuotient (num den : Nat) : Nat :=
  let q := num / den
  let r := num % den
  if 2 * r < den then q
  else if den < 2 * r then q + 1
  else q + q % 2

/-- The quotient divided by a power of two, as numerator and denominator. -/
def shiftQuotient (num den : Nat) (e : Int) : Nat × Nat :=
  if 0 ≤ e then (num, den * Nat.pow 2 e.toNat) else (num * Nat.pow 2 (-e).toNat, den)

namespace Binary64

def leastExponent : Int := -1074

def greatestExponent : Int := 971

/-- Zero, which keeps a sign. -/
def zero (negative : Bool) : Binary64 := ⟨negative, 0, leastExponent⟩

/-- The exponent at which a quotient has a mantissa of 53 bits, but not below the least one. -/
def exponentOf (num den : Nat) : Int :=
  let e : Int := (Nat.log2 num : Int) - (Nat.log2 den : Int) - 52
  let (n, d) := shiftQuotient num den e
  max (if n < Nat.pow 2 52 * d then e - 1 else e) leastExponent

/-- The value nearest to a quotient, if it is in the range of the format. -/
def ofQuotient (negative : Bool) (num den : Nat) : Option Binary64 :=
  if num = 0 then some (zero negative)
  else
    let e := exponentOf num den
    let (n, d) := shiftQuotient num den e
    let m := roundQuotient n d
    let (m, e) := if m = Nat.pow 2 53 then (Nat.pow 2 52, e + 1) else (m, e)
    if greatestExponent < e then none else some ⟨negative, m, e⟩

/-- The size of a value as a quotient of natural numbers. -/
def quotient (x : Binary64) : Nat × Nat :=
  if 0 ≤ x.exponent then (x.mantissa * Nat.pow 2 x.exponent.toNat, 1)
  else (x.mantissa, Nat.pow 2 (-x.exponent).toNat)

/-- The rounded product. -/
def mul? (x y : Binary64) : Option Binary64 :=
  let (a, b) := x.quotient
  let (c, d) := y.quotient
  ofQuotient (x.negative != y.negative) (a * c) (b * d)

/-- The rounded quotient. -/
def div? (x y : Binary64) : Option Binary64 :=
  let (a, b) := x.quotient
  let (c, d) := y.quotient
  ofQuotient (x.negative != y.negative) (a * d) (b * c)

/-- The value nearest to an integer. -/
def ofInt? (n : Int) : Option Binary64 :=
  ofQuotient (n < 0) n.natAbs 1

/-- The value has no fraction. -/
def isIntegral (x : Binary64) : Bool :=
  let (a, b) := x.quotient
  a % b == 0

/-- The value lies below zero; the negative zero does not. -/
def isBelowZero (x : Binary64) : Bool :=
  x.negative && x.mantissa != 0

end Binary64

end ModelLinker.Decimal

import ModelLinker.Decimal.Binary64

/-!
Reading a decimal number. The digits are rounded first and then multiplied or divided by one
rounded power of ten, so the result can differ from the nearest value in its last bit.
-/

namespace ModelLinker.Decimal

/-- The value nearest to a power of ten; the greatest one in range is the 308th. -/
def powerOfTen? (k : Nat) : Option Binary64 :=
  Binary64.ofQuotient false (Nat.pow 10 k) 1

/-- The greatest power of ten that is used in one step. -/
def greatestPower : Nat := 308

/-- The value times a power of ten. Zero stays zero. -/
def scaleUp? (x : Binary64) (k : Nat) : Option Binary64 :=
  if x.mantissa = 0 then some x
  else if k ≤ greatestPower then (powerOfTen? k).bind x.mul?
  else none

/-- The value divided by a power of ten, in steps of the greatest power. No significand of 64 bits
is left after two steps. -/
def scaleDown? (x : Binary64) (k : Nat) : Option Binary64 :=
  if k ≤ greatestPower then (powerOfTen? k).bind x.div?
  else if k ≤ 2 * greatestPower then do
    let p ← powerOfTen? greatestPower
    let y ← x.div? p
    let q ← powerOfTen? (k - greatestPower)
    y.div? q
  else some (Binary64.zero x.negative)

/-- The value read for `significand * 10 ^ exponent`, if it is in range. -/
def scaled? (negative : Bool) (significand : Nat) (exponent : Int) : Option Binary64 := do
  let x ← Binary64.ofQuotient negative significand 1
  if 0 ≤ exponent then scaleUp? x exponent.toNat else scaleDown? x (-exponent).toNat

end ModelLinker.Decimal

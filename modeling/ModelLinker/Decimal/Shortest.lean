import ModelLinker.Decimal.Binary64

/-!
The shortest decimal text of a floating-point number: the fewest digits that read back as the
number, and of those the nearest to it. Numbers of ordinary size are written out with a point, the
others with an exponent.
-/

namespace ModelLinker.Decimal

/-- How many decimal digits a natural number has. -/
def digitCount (n : Nat) : Nat :=
  (Nat.toDigits 10 n).length

/-- The exponent of the leading digit of a positive quotient. -/
def leadingExponent (num den : Nat) : Int :=
  if den ≤ num then (digitCount (num / den) : Int) - 1
  else -(digitCount ((den + num - 1) / num - 1) : Int)

/-- The quotient divided by a power of ten, as numerator and denominator. -/
def shiftDecimal (num den : Nat) (g : Int) : Nat × Nat :=
  if 0 ≤ g then (num, den * Nat.pow 10 g.toNat) else (num * Nat.pow 10 (-g).toNat, den)

/-- The reals that round to a value: the ends in quarters of the last place, and whether the ends
belong to it. -/
structure Interval where
  low : Nat
  high : Nat
  closed : Bool

/-- The reals that round to a value. Below a power of two the next value is only half as far. -/
def Binary64.interval (x : Binary64) : Interval :=
  let narrow := x.mantissa = Nat.pow 2 52 ∧ Binary64.leastExponent < x.exponent
  { low := 4 * x.mantissa - (if narrow then 1 else 2)
    high := 4 * x.mantissa + 2
    closed := x.mantissa % 2 == 0 }

/-- The decimal `d * 10 ^ g` lies among the reals that round to the value. -/
def Binary64.accepts (x : Binary64) (d : Nat) (g : Int) : Bool :=
  let i := x.interval
  let (p, q) := shiftDecimal 1 1 g
  -- `d * q / p` against quarters of the last place
  let (c, b) := shiftQuotient (4 * d * q) p x.exponent
  let low := i.low * b
  let high := i.high * b
  if i.closed then low ≤ c && c ≤ high else low < c && c < high

/-- The decimal of a given number of digits that reads back as the value, if there is one: of the
two neighbours of the value on the grid of such decimals the nearer one. -/
def Binary64.decimalOf? (x : Binary64) (count : Nat) : Option (Nat × Int) :=
  let (num, den) := x.quotient
  let g := leadingExponent num den - (count : Int) + 1
  let (n, d) := shiftDecimal num den g
  let below := n / d
  let above := below + 1
  match x.accepts below g, x.accepts above g with
  | false, false => none
  | true, false => some (below, g)
  | false, true => some (above, g)
  | true, true =>
    let r := 2 * (n % d)
    some (if r < d ∨ (r = d ∧ below % 2 = 0) then below else above, g)

/-- The shortest decimal that reads back as the value; seventeen digits always suffice. -/
def Binary64.shortest (x : Binary64) : Nat × Int :=
  ((List.range' 1 17).findSome? x.decimalOf?).getD (0, 0)

/-- The digits without the zeros at the end. -/
def significantDigits (d : Nat) : List Char :=
  ((Nat.toDigits 10 d).reverse.dropWhile (· = '0')).reverse

/-- The least and the greatest exponent of the leading digit that are written out with a point. -/
def plainExponents : Int × Int := (-5, 15)

/-- Digits whose leading one stands at an exponent, written out with a point; there is always a
digit on both sides of it. -/
def plainText (ds : List Char) (k : Int) : List Char :=
  if k < 0 then '0' :: '.' :: List.replicate ((-k).toNat - 1) '0' ++ ds
  else
    let whole := k.toNat + 1
    let fraction := ds.drop whole
    ds.take whole ++ List.replicate (whole - ds.length) '0' ++
      '.' :: (if fraction.isEmpty then ['0'] else fraction)

/-- Digits whose leading one stands at an exponent, written with that exponent and its sign. -/
def exponentText (ds : List Char) (k : Int) : List Char :=
  let point := match ds with
    | d :: [] => [d]
    | d :: rest => d :: '.' :: rest
    | [] => []
  point ++ 'e' :: (if k < 0 then '-' else '+') :: Nat.toDigits 10 k.natAbs

/-- The shortest text of a value. -/
def Binary64.text (x : Binary64) : String :=
  let sign := if x.negative then ['-'] else []
  if x.mantissa = 0 then String.ofList (sign ++ ['0', '.', '0'])
  else
    let (d, g) := x.shortest
    let ds := significantDigits d
    let k := g + (digitCount d : Int) - 1
    String.ofList <| sign ++
      if plainExponents.1 ≤ k ∧ k ≤ plainExponents.2 then plainText ds k else exponentText ds k

end ModelLinker.Decimal

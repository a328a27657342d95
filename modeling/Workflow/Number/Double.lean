/-!
Finite binary64 numbers and their decimal text, in exact integer arithmetic. A number is rounded to
the nearest double, a tie to the even mantissa, and printed with the fewest digits that read as the
same double.
-/

set_option autoImplicit false

namespace Workflow

structure Double where
  negative : Bool
  mantissa : Nat
  exponent : Int
deriving DecidableEq, Repr

namespace Double

def zero : Double := ⟨false, 0, -1074⟩

def halfEven (num den : Nat) : Nat :=
  let q := num / den
  let r := num % den
  if 2 * r < den then q
  else if den < 2 * r then q + 1
  else if q % 2 = 0 then q else q + 1

def scaled (num den : Nat) (e : Int) : Nat × Nat :=
  if 0 ≤ e then (num, den * Nat.pow 2 e.toNat) else (num * Nat.pow 2 (-e).toNat, den)

def smallestMantissa : Nat := 4503599627370496

-- The exponent at which the quotient has a 53 bit mantissa, never below the subnormal one.
def exponentFor (num den : Nat) : Int :=
  let guess : Int := (num.log2 : Int) - (den.log2 : Int) - 52
  let (n, d) := scaled num den guess
  let e := if n / d < smallestMantissa then guess - 1 else guess
  if e < -1074 then -1074 else e

def ofQuotient? (num den : Nat) : Option Double :=
  if num = 0 then some zero
  else
    let e := exponentFor num den
    let (n, d) := scaled num den e
    let m := halfEven n d
    let (m, e) := if m = 2 * smallestMantissa then (smallestMantissa, e + 1) else (m, e)
    if 971 < e then none else some ⟨false, m, e⟩

def quotient (x : Double) : Nat × Nat :=
  if 0 ≤ x.exponent then (x.mantissa * Nat.pow 2 x.exponent.toNat, 1)
  else (x.mantissa, Nat.pow 2 (-x.exponent).toNat)

def withSign (negative : Bool) (x : Double) : Double := { x with negative }

def mul? (x y : Double) : Option Double :=
  let (a, b) := x.quotient
  let (c, d) := y.quotient
  ofQuotient? (a * c) (b * d)

def div? (x y : Double) : Option Double :=
  let (a, b) := x.quotient
  let (c, d) := y.quotient
  ofQuotient? (a * d) (b * c)

def ofNat? (n : Nat) : Option Double := ofQuotient? n 1

def powerOfTen? (n : Nat) : Option Double := ofNat? (Nat.pow 10 n)

def shrink? (x : Double) (n : Nat) : Option Double :=
  if n ≤ 308 then (powerOfTen? n).bind x.div?
  else if x.mantissa = 0 then some x
  else (powerOfTen? 308).bind x.div? |>.bind fun y => shrink? y (n - 308)
termination_by n
decreasing_by omega

def grow? (x : Double) (n : Nat) : Option Double :=
  if n ≤ 308 then (powerOfTen? n).bind x.mul?
  else if x.mantissa = 0 then some x else none

-- The double read for `significand * 10 ^ exponent`: the significand is rounded first, then the
-- product or quotient with the rounded power of ten.
def ofDecimal? (negative : Bool) (significand : Nat) (exponent : Int) : Option Double := do
  let x ← ofNat? significand
  let y ← if 0 ≤ exponent then grow? x exponent.toNat else shrink? x (-exponent).toNat
  return y.withSign negative

def ofInt (i : Int) : Double :=
  ((ofNat? i.natAbs).getD zero).withSign (i < 0)

def share (part whole : Nat) : Double :=
  if whole = 0 then zero else (ofQuotient? part whole).getD zero

-- Twice the distances from a nonzero magnitude to its neighbours' midpoints are written over a
-- common denominator: lower end, value, upper end, denominator.
def interval (x : Double) : Nat × Nat × Nat × Nat :=
  let below := if x.mantissa = smallestMantissa ∧ -1074 < x.exponent then 1 else 2
  let e := x.exponent - 2
  let up := if 0 ≤ e then Nat.pow 2 e.toNat else 1
  let den := if 0 ≤ e then 1 else Nat.pow 2 (-e).toNat
  ((4 * x.mantissa - below) * up, 4 * x.mantissa * up, (4 * x.mantissa + 2) * up, den)

-- The multiple of `10 ^ k` that reads as `x` and lies nearest to it, if there is one; of two that
-- are equally near the even one.
def onGrid? (x : Double) (k : Int) : Option Nat :=
  let (low, mid, high, den) := x.interval
  let unit := if 0 ≤ k then Nat.pow 10 k.toNat * den else den
  let lift := if 0 ≤ k then 1 else Nat.pow 10 (-k).toNat
  let inside (c : Nat) : Bool :=
    if x.mantissa % 2 = 0 then low * lift ≤ c * unit && c * unit ≤ high * lift
    else low * lift < c * unit && c * unit < high * lift
  let c := mid * lift / unit
  match inside c, inside (c + 1) with
  | true, true => some (halfEven (mid * lift) unit)
  | true, false => some c
  | false, true => some (c + 1)
  | false, false => none

def decimalFrom (x : Double) : Nat → Nat × Int
  | 0 => (0, 0)
  | n + 1 =>
    match x.onGrid? ((n : Int) - 350) with
    | some c => (c, (n : Int) - 350)
    | none => decimalFrom x n

def decimal (x : Double) : Nat × Int := if x.mantissa = 0 then (0, 0) else x.decimalFrom 660

def render (x : Double) : String :=
  let (c, k) := x.decimal
  let digits := (toString c).toList
  let point : Int := digits.length + k
  let zeros (n : Int) := List.replicate n.toNat '0'
  let body :=
    if c = 0 then "0.0".toList
    else if -5 < point && point ≤ 0 then "0.".toList ++ zeros (-point) ++ digits
    else if 0 < point && point ≤ 16 then
      if k < 0 then digits.take point.toNat ++ '.' :: digits.drop point.toNat
      else digits ++ zeros k ++ ".0".toList
    else
      let fraction := digits.drop 1
      digits.take 1 ++ (if fraction.isEmpty then [] else '.' :: fraction) ++
        'e' :: (toString (point - 1)).toList
  String.ofList (if x.negative then '-' :: body else body)

end Double

end Workflow

/-!
Binary floating-point numbers of 64 bits, held as their bits.  Everything here is arithmetic on
natural numbers: a finite number is `m * 2 ^ q`, and a quotient is rounded to the nearest one with
ties to the even neighbour.
-/

namespace VaultQuery

/-- A binary floating-point number: one sign bit, eleven exponent bits, 52 fraction bits. -/
structure Binary64 where
  bits : UInt64
deriving DecidableEq, Repr

namespace Binary64

/-- The sign bit, `2 ^ 63`. -/
def signBit : Nat := 0x8000000000000000

/-- The lowest exponent bit, `2 ^ 52`; the bits below it are the fraction. -/
def unitBit : Nat := 0x10000000000000

/-- The bits without the sign. -/
def magnitude (x : Binary64) : Nat :=
  x.bits.toNat % signBit

/-- Whether the sign bit is set. -/
def isNegative (x : Binary64) : Bool :=
  signBit ≤ x.bits.toNat

/-- The magnitude bits of infinity; larger magnitudes are not numbers. -/
def infinityBits : Nat :=
  0x7FF * unitBit

/-- The magnitude bits of what is not a number. -/
def nanBits : Nat :=
  infinityBits + unitBit / 2

/-- The number with the given sign and magnitude bits. -/
def ofMagnitude (negative : Bool) (magnitude : Nat) : Binary64 :=
  ⟨UInt64.ofNat (if negative then signBit + magnitude else magnitude)⟩

/-- The same magnitude under the other sign. -/
def neg (x : Binary64) : Binary64 :=
  ofMagnitude (!x.isNegative) x.magnitude

/-- Whether the value is a finite number. -/
def isFinite (x : Binary64) : Bool :=
  x.magnitude < infinityBits

/-- The significand `m` of a finite number `m * 2 ^ q`. -/
def significand (x : Binary64) : Nat :=
  if x.magnitude < unitBit then x.magnitude else x.magnitude % unitBit + unitBit

/-- The exponent `q` of a finite number `m * 2 ^ q`. -/
def exponent (x : Binary64) : Int :=
  if x.magnitude < unitBit then -1074 else (x.magnitude / unitBit : Nat) - 1075

/-- The least exponent `e` with `2 ^ e ≤ num / den < 2 ^ (e + 1)`, for positive `num` and `den`. -/
def ratioLog (num den : Nat) : Int :=
  let l : Int := num.log2 - den.log2
  if den * Nat.pow 2 l.toNat ≤ num * Nat.pow 2 (-l).toNat then l else l - 1

/-- The magnitude bits of the number nearest to `num / den`, a tie going to the even one. -/
def roundRatio (num den : Nat) : Nat :=
  if num = 0 then 0
  else
    let e := max (ratioLog num den - 52) (-1074)
    let n := num * Nat.pow 2 (-e).toNat
    let d := den * Nat.pow 2 e.toNat
    let up := 2 * (n % d) > d || (2 * (n % d) == d && n / d % 2 == 1)
    min ((e + 1074).toNat * unitBit + n / d + if up then 1 else 0) infinityBits

/-- A power of ten beyond which every positive number is infinite and its inverse nothing. -/
def farPlaces : Nat := 400

/-- The number nearest to `digits * 10 ^ scale`.  What lies far beyond the range is not computed: a
natural number has at most one decimal digit more than a third of its binary ones. -/
def ofDecimal (negative : Bool) (digits : Nat) (scale : Int) : Binary64 :=
  if digits = 0 || scale < -((digits.log2 / 3 + 1 + farPlaces : Nat) : Int) then
    ofMagnitude negative 0
  else if farPlaces < scale then ofMagnitude negative infinityBits
  else
    ofMagnitude negative
      (roundRatio (digits * Nat.pow 10 scale.toNat) (Nat.pow 10 (-scale).toNat))

/-- The number nearest to an integer; too large an integer goes to infinity. -/
def ofInt (n : Int) : Binary64 :=
  ofDecimal (n < 0) n.natAbs 0

/-- The product with a natural number, rounded once. -/
def scale (x : Binary64) (factor : Nat) : Binary64 :=
  if x.isFinite then
    let m := x.significand * factor
    ofMagnitude x.isNegative
      (roundRatio (m * Nat.pow 2 x.exponent.toNat) (Nat.pow 2 (-x.exponent).toNat))
  else x

/-- The sum of two numbers that are not negative, rounded once. -/
def add (x y : Binary64) : Binary64 :=
  if x.isFinite && y.isFinite then
    let q := min x.exponent y.exponent
    let n := x.significand * Nat.pow 2 (x.exponent - q).toNat +
      y.significand * Nat.pow 2 (y.exponent - q).toNat
    ofMagnitude false (roundRatio (n * Nat.pow 2 q.toNat) (Nat.pow 2 (-q).toNat))
  else ofMagnitude false infinityBits

/-- The product of two numbers that are not negative, rounded once. -/
def mul (x y : Binary64) : Binary64 :=
  if x.isFinite && y.isFinite then
    let q := x.exponent + y.exponent
    let n := x.significand * y.significand
    ofMagnitude false (roundRatio (n * Nat.pow 2 q.toNat) (Nat.pow 2 (-q).toNat))
  else ofMagnitude false infinityBits

/-- The integer that a finite number without a fraction is. -/
def toInt? (x : Binary64) : Option Int :=
  if x.isFinite then
    let n := x.significand * Nat.pow 2 x.exponent.toNat
    let d := Nat.pow 2 (-x.exponent).toNat
    if n % d = 0 then some (if x.isNegative then -(n / d : Nat) else (n / d : Nat)) else none
  else none

end Binary64

end VaultQuery

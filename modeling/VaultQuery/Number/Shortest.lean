import VaultQuery.Number.Binary64

/-!
The decimal text of a binary number: the fewest digits that read back as the same number, and of
those the nearest to it.
-/

namespace VaultQuery.Binary64

/-- The number of decimal places a quotient in `(0, 1)` has to move to reach `1`, at most `fuel`. -/
def leadingPlaces (den : Nat) : (fuel : Nat) → (num : Nat) → Nat
  | 0, _ => 0
  | fuel + 1, num => if den ≤ num then 0 else leadingPlaces den fuel (num * 10) + 1

/-- The `p` with `10 ^ (p - 1) ≤ num / den < 10 ^ p`. -/
def pointPlace (num den : Nat) : Int :=
  if den ≤ num then (Nat.toDigits 10 (num / den)).length
  else 1 - leadingPlaces den 400 num

/-- Whether `n * 10 ^ s` reads back as `m * 2 ^ q`: it lies between the midpoints to the two
neighbours, a midpoint itself counting if `m` is even. -/
def readsBack (m : Nat) (q : Int) (n : Nat) (s : Int) : Bool :=
  -- all sides are scaled by `4 * 2 ^ (-q) * 10 ^ (-s)`
  let v := 4 * n * Nat.pow 10 s.toNat * Nat.pow 2 (-q).toNat
  let unit := Nat.pow 2 q.toNat * Nat.pow 10 (-s).toNat
  let below := if m = unitBit && q ≠ -1074 then 1 else 2
  let low := (4 * m - below) * unit
  let high := (4 * m + 2) * unit
  if m % 2 = 0 then low ≤ v && v ≤ high else low < v && v < high

/-- The digits of `m * 2 ^ q` on the grid of `k` decimal places, if one of its two neighbours on
the grid reads back; of two, the nearer, and of two equally near the even one. -/
def onGrid (m : Nat) (q p : Int) (k : Nat) : Option Nat :=
  let s := p - k
  let n := m * Nat.pow 2 q.toNat * Nat.pow 10 (-s).toNat
  let d := Nat.pow 2 (-q).toNat * Nat.pow 10 s.toNat
  let f := n / d
  let r := n % d
  let lowFits := readsBack m q f s
  let highFits := readsBack m q (f + 1) s
  if lowFits && highFits then
    some (if 2 * r < d || (2 * r == d && f % 2 == 0) then f else f + 1)
  else if lowFits then some f
  else if highFits then some (f + 1)
  else none

/-- The digits on the first grid from `k` places on that has them, at most `fuel` grids further. -/
def firstGrid (m : Nat) (q p : Int) : (fuel : Nat) → (k : Nat) → Nat × Int
  | 0, k => ((onGrid m q p k).getD 0, p - k)
  | fuel + 1, k =>
    match onGrid m q p k with
    | some n => (n, p - k)
    | none => firstGrid m q p fuel (k + 1)

/-- A positive finite number as `n * 10 ^ s` with the fewest digits. -/
def shortest (m : Nat) (q : Int) : Nat × Int :=
  firstGrid m q (pointPlace (m * Nat.pow 2 q.toNat) (Nat.pow 2 (-q).toNat)) 17 1

/-- How a decimal number is laid out. -/
structure Layout where
  /-- The least decimal exponent that is written out in full. -/
  leastPlain : Int
  /-- The least decimal exponent that is too large to be written out in full. -/
  leastLarge : Int
  /-- The least number of digits of a written exponent. -/
  exponentDigits : Nat

/-- Numbers from `0.0001` to below `10 ^ 16` are written out; exponents have two digits or more. -/
def plainLayout : Layout :=
  ⟨-4, 16, 2⟩

/-- The digits of a number, with zeros in front up to the width. -/
def padded (width n : Nat) : List Char :=
  let ds := Nat.toDigits 10 n
  List.replicate (width - ds.length) '0' ++ ds

/-- The text of `digits * 10 ^ scale`. -/
def decimalText (layout : Layout) (digits : Nat) (scale : Int) : List Char :=
  let all := Nat.toDigits 10 digits
  let ds := (all.reverse.dropWhile (· == '0')).reverse
  -- the decimal point stands after `point` digits
  let point : Int := scale + all.length
  let e := point - 1
  if e < layout.leastPlain || layout.leastLarge ≤ e then
    let sign := if e < 0 then '-' else '+'
    let fraction := if ds.length ≤ 1 then [] else '.' :: ds.drop 1
    ds.take 1 ++ fraction ++ 'e' :: sign :: padded layout.exponentDigits e.natAbs
  else if point ≤ 0 then
    '0' :: '.' :: List.replicate (-point).toNat '0' ++ ds
  else
    let n := point.toNat
    if ds.length ≤ n then ds ++ List.replicate (n - ds.length) '0' ++ ['.', '0']
    else ds.take n ++ '.' :: ds.drop n

/-- The text of a number. -/
def text (x : Binary64) : String :=
  let sign := if x.isNegative then "-" else ""
  if infinityBits < x.magnitude then "nan"
  else if x.magnitude = infinityBits then sign ++ "inf"
  else if x.magnitude = 0 then sign ++ "0.0"
  else
    let (n, s) := shortest x.significand x.exponent
    sign ++ String.ofList (decimalText plainLayout n s)

end VaultQuery.Binary64

import ProcessWatch.Decimal.Binary64

/-!
# The fewest decimal digits that read back

A double is the nearest one to a whole interval of reals. Its shortest decimal is the one with the
fewest digits in that interval, and of those the nearest to the double itself. All comparisons are
between natural numbers: the double and the ends of its interval are brought to one denominator.
-/

namespace ProcessWatch.Decimal

/-- A decimal numeral `0.d₁d₂… * 10 ^ (exponent + 1)`: its digits, and the power of ten of the
first. -/
structure Scientific where
  digits : List Nat
  exponent : Int
deriving Repr, DecidableEq

/-- The decimal digits of a number, highest first. -/
def digitsOf (n : Nat) : List Nat := (Nat.toDigits 10 n).map fun c => c.toNat - '0'.toNat

def trimZeros (digits : List Nat) : List Nat := (digits.reverse.dropWhile (· == 0)).reverse

/-- A double and the ends of its interval as numerators over one denominator. -/
structure Interval where
  low : Nat
  middle : Nat
  high : Nat
  denominator : Nat
  /-- Whether the ends themselves still round to the double. -/
  closed : Bool

namespace Interval

/-- The reals that round to `significand * 2 ^ exponent`. Below a power of two the neighbours are
half as far away as above it, and an end that lies half way goes to the even significand. -/
def ofDouble (significand : Nat) (exponent : Int) : Interval :=
  let below := if significand = 1 <<< 52 ∧ exponent > -1074 then 1 else 2
  let up := 1 <<< (exponent - 2).toNat
  { low := (4 * significand - below) * up
    middle := 4 * significand * up
    high := (4 * significand + 2) * up
    denominator := 1 <<< (2 - exponent).toNat
    closed := significand % 2 = 0 }

/-- Whether `n / scale` lies in the interval whose numerators are all multiplied by `scale`. -/
def contains (i : Interval) (n : Nat) : Bool :=
  if i.closed then i.low ≤ n && n ≤ i.high else i.low < n && n < i.high

def scale (i : Interval) (factor : Nat) : Interval :=
  { i with low := i.low * factor, middle := i.middle * factor, high := i.high * factor }

/-- The power of ten of the first digit of the double. -/
def magnitude (i : Interval) : Int :=
  ((digitsOf (i.middle * Nat.pow 10 340 / i.denominator)).length : Int) - 341

/-- The multiple of `10 ^ place` in the interval that is nearest to the double, as that multiple;
of two equally near ones the even one. -/
def nearest? (i : Interval) (place : Int) : Option Nat :=
  let scaled := i.scale (Nat.pow 10 (-place).toNat)
  let unit := Nat.pow 10 place.toNat * i.denominator
  let down := scaled.middle / unit
  let lower := down * unit
  let upper := (down + 1) * unit
  let toLower := scaled.middle - lower
  let toUpper := upper - scaled.middle
  match scaled.contains lower, scaled.contains upper with
  | false, false => none
  | true, false => some down
  | false, true => some (down + 1)
  | true, true =>
    if toLower < toUpper then some down
    else if toUpper < toLower then some (down + 1)
    else if down % 2 = 0 then some down else some (down + 1)

/-- Tries ever finer grids, starting where `count` digits are still missing of seventeen. -/
def shortestFrom (i : Interval) (magnitude : Int) : Nat → Scientific
  | 0 => ⟨digitsOf (i.middle / i.denominator), magnitude⟩
  | count + 1 =>
    let place := magnitude - (16 - count : Nat)
    match i.nearest? place with
    | some n =>
      let digits := digitsOf n
      ⟨trimZeros digits, place + (digits.length : Int) - 1⟩
    | none => i.shortestFrom magnitude count

end Interval

/-- The shortest decimal of a positive double, given by significand and power of two. -/
def shortest (significand : Nat) (exponent : Int) : Scientific :=
  let i := Interval.ofDouble significand exponent
  i.shortestFrom i.magnitude 17

end ProcessWatch.Decimal

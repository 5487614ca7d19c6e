import ProcessWatch.Decimal.Binary64

/-!
# A fixed number of decimal places

The exact value of a double, rounded to a given number of places. A value half way between two
neighbours goes to the one with the even last digit.
-/

namespace ProcessWatch.Decimal

/-- The whole number nearest to `numerator / denominator`; of two equally near ones the even one. -/
def roundHalfEven (numerator denominator : Nat) : Nat :=
  let quotient := numerator / denominator
  let rest := numerator % denominator
  if 2 * rest < denominator then quotient
  else if denominator < 2 * rest then quotient + 1
  else if quotient % 2 = 0 then quotient else quotient + 1

/-- A whole number of units of the last of `places` places, written with a point before them. -/
def placePoint (units places : Nat) : String :=
  let digits := toString units
  if places = 0 then digits
  else
    let padded := String.ofList (List.replicate (places + 1 - digits.length) '0') ++ digits
    let whole := padded.length - places
    String.ofList (padded.toList.take whole) ++ "." ++ String.ofList (padded.toList.drop whole)

/-- The text of a double with `places` digits after the point and never an exponent. -/
def fixed (places : Nat) (x : Float) : String :=
  match Binary64.ofFloat x with
  | .nan => "NaN"
  | .infinite negative => if negative then "-inf" else "inf"
  | .finite negative significand exponent =>
    let units :=
      roundHalfEven (significand <<< exponent.toNat * Nat.pow 10 places) (1 <<< (-exponent).toNat)
    (if negative then "-" else "") ++ placePoint units places

end ProcessWatch.Decimal

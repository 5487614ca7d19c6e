/-!
# Doubles as integers times powers of two

Every text of a floating-point number is computed in exact integer arithmetic from the parts that
its 64 bits spell: a sign, a significand and a power of two.
-/

namespace ProcessWatch

/-- What the bits of a double say. -/
inductive Binary64 where
  | nan
  | infinite (negative : Bool)
  /-- The number `significand * 2 ^ exponent`, negated if `negative`. -/
  | finite (negative : Bool) (significand : Nat) (exponent : Int)
deriving Repr, DecidableEq

namespace Binary64

/-- Reads the three fields of a double: one bit of sign, eleven of exponent, the rest fraction. -/
def ofFloat (x : Float) : Binary64 :=
  let bits := x.toBits.toNat
  let negative : Bool := bits >>> 63 == 1
  let biased : Nat := bits >>> 52 % 1 <<< 11
  let fraction : Nat := bits % 1 <<< 52
  if biased = 1 <<< 11 - 1 then
    if fraction = 0 then .infinite negative else .nan
  else if biased = 0 then
    .finite negative fraction (-1074)
  else
    .finite negative (1 <<< 52 + fraction) (biased - 1075)

end Binary64

end ProcessWatch

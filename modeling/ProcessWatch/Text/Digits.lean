/-!
# Digits

Numbers that are written as rows of ASCII digits, in a base up to sixteen.
-/

namespace ProcessWatch.Text

def hexDigit? (c : Char) : Option Nat :=
  if c.isDigit then some (c.toNat - '0'.toNat)
  else if 'a' ≤ c ∧ c ≤ 'f' then some (c.toNat - 'a'.toNat + 10)
  else if 'A' ≤ c ∧ c ≤ 'F' then some (c.toNat - 'A'.toNat + 10)
  else none

def digit? (base : Nat) (c : Char) : Option Nat := (hexDigit? c).filter (· < base)

/-- The number of a row of digits; no digits at all are zero. -/
def digits? (base : Nat) (row : List Char) : Option Nat :=
  row.foldlM (fun value c => (digit? base c).map (value * base + ·)) 0

/-- The number of a row of at least one digit. -/
def natural? (base : Nat) (row : List Char) : Option Nat :=
  if row.isEmpty then none else digits? base row

end ProcessWatch.Text

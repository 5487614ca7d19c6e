import ProcessWatch.Decimal.Fixed

/-!
# Quantities

Sizes of memory and percentages as they are shown: with one decimal place at most.
-/

namespace ProcessWatch.Display

/-- The units above bytes, each 1024 times the one before. -/
def largerUnits : List String := ["KB", "MB", "GB", "TB", "PB"]

/-- The size in the first unit in which it is less than 1024, or else in the last. -/
def inUnit (size : Float) (unit : String) : List String → Float × String
  | [] => (size, unit)
  | larger :: rest => if 1024 ≤ size then inUnit (size / 1024) larger rest else (size, unit)

/-- A decimal without the place after the point if that is zero. -/
def dropZeroPlace (text : String) : String :=
  if text.endsWith ".0" then (text.dropEnd 2).toString else text

/-- A size of memory. Bytes are shown whole; nothing is less than no bytes. -/
def memory (bytes : Float) : String :=
  let size := if 0 < bytes then bytes else 0
  let (value, unit) := inUnit size "B" largerUnits
  if unit = "B" then Decimal.fixed 0 value ++ " B"
  else dropZeroPlace (Decimal.fixed 1 value) ++ " " ++ unit

def percent (value : Float) : String := Decimal.fixed 1 value ++ "%"

end ProcessWatch.Display

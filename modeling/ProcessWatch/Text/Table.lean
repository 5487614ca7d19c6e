import ProcessWatch.Text.Digits

/-!
# Tables of characters

A table gives values to characters. Large ones are written as text: words such as `a8=20.308`, which
gives the values on the right to the code point on the left, all in hexadecimal. On the left may
also stand a range, `13f-140`, or every second code point of one, `139~13d`. Behind `>` instead of
`=` stands the value of the first code point; those of the others follow on at the same distance.
-/

namespace ProcessWatch.Text

/-- A word of a table. -/
structure Row where
  first : Nat
  last : Nat
  /-- The distance of two code points that the row is about. -/
  step : Nat
  /-- Whether the value grows with the code point. -/
  follows : Bool
  values : List Nat
deriving Repr, DecidableEq

namespace Row

/-- The values of a code point. -/
def points? (row : Row) (point : Nat) : Option (List Nat) :=
  let distance := point - row.first
  if point < row.first || row.last < point || distance % row.step ≠ 0 then none
  else if row.follows then some (row.values.map (· + distance))
  else some row.values

/-- The code points that a row is about, and their distance. -/
def ofRange? (text : String) : Option (Nat × Nat × Nat) := do
  let number (text : String) : Option Nat := natural? 16 text.toList
  match text.splitOn "-", text.splitOn "~" with
  | [first, last], _ => return (← number first, ← number last, 1)
  | _, [first, last] => return (← number first, ← number last, 2)
  | _, _ => let point ← number text; return (point, point, 1)

def ofText? (text : String) : Option Row := do
  let (range, values, follows) ← match text.splitOn "=", text.splitOn ">" with
    | [range, values], _ => some (range, values, false)
    | _, [range, values] => some (range, values, true)
    | _, _ => none
  let (first, last, step) ← ofRange? range
  let values ← if values.isEmpty then some []
    else (values.splitOn ".").mapM fun value => natural? 16 value.toList
  return ⟨first, last, step, follows, values⟩

end Row

/-- A table of characters. -/
structure Table where
  rows : List Row

namespace Table

/-- Reads a table. What is no row is left out. -/
def ofText (text : String) : Table :=
  ⟨((text.split fun c => c = ' ' || c = '\n').toList.filterMap fun row => Row.ofText? row.toString)⟩

def points? (table : Table) (c : Char) : Option (List Nat) :=
  table.rows.findSome? (·.points? c.toNat)

def get? (table : Table) (c : Char) : Option (List Char) :=
  (table.points? c).map (·.map Char.ofNat)

/-- The first character that has some values. -/
def find? (table : Table) (values : List Char) : Option Char :=
  let points := values.map Char.toNat
  table.rows.findSome? fun row =>
    if !row.follows && row.values = points then some (Char.ofNat row.first) else none

end Table

end ProcessWatch.Text

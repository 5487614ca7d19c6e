import ProcessWatch.Wire.Mismatch

/-!
# Fields that may be left out or taken back

The monitor may leave a field out, which keeps what is known, or send `null`, which takes it back.
-/

namespace ProcessWatch

/-- What an answer says about a field. -/
inductive Reported (α : Type) where
  /-- Nothing: what is known stays. -/
  | absent
  /-- That there is no value. -/
  | null
  | value (a : α)
deriving Repr, DecidableEq, Inhabited

namespace Reported

variable {α : Type}

/-- The value, if one was sent. -/
def value? : Reported α → Option α
  | .value a => some a
  | _ => none

/-- The report that there is this value, or none. -/
def ofOption : Option α → Reported α
  | some a => .value a
  | none => .null

/-- Fills a field that was left out with what is known. -/
def orKnown (incoming : Reported α) (known : Option α) : Reported α :=
  match incoming with
  | .absent => ofOption known
  | reported => reported

/-- Reads a field that was sent. -/
def ofJson (read : Json → Except Mismatch α) (value : Json) : Except Mismatch (Reported α) :=
  (value.toOption read).map ofOption

/-- Writes a field unless it was left out. -/
def toFields (key : String) (write : α → Json) : Reported α → Fields
  | .absent => []
  | .null => [(key, .null)]
  | .value a => [(key, write a)]

end Reported

/-- Keeps the first value that was seen. -/
def keepFirst {α : Type} (known incoming : Option α) : Option α := known.or incoming

end ProcessWatch

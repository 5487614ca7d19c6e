import ProcessWatch.Json.Printer
import ProcessWatch.Order.SortedMap
import ProcessWatch.Text.Quoted

/-!
# Values of the wrong shape

How the typed fields of an answer are read from JSON, and what is said about a value that does not
fit. Words are read from whole numbers in range only: `1.0` is no word.
-/

namespace ProcessWatch

/-- A process identifier. -/
abbrev Pid := UInt32

/-- What was found where something else was expected. -/
inductive Found where
  | null
  | bool (value : Bool)
  | int (value : Int)
  | float (value : Float)
  | string (value : String)
  | sequence
  | map
deriving Repr, DecidableEq

/-- What was expected of a value. -/
inductive Expected where
  | word32
  | word64
  | integer64
  | double
  | boolean
  | string
  | map
  | processSnapshot
  | descriptorSnapshot
  | identity
deriving Repr, DecidableEq

/-- Why a value does not fit. -/
inductive Mismatch where
  | missing (field : String)
  | duplicate (field : String)
  | type (found : Found) (expected : Expected)
  | range (value : Int) (expected : Expected)
  /-- A status that is neither an object nor an array. -/
  | notStatus
deriving Repr, DecidableEq

namespace Found

def ofJson : Json → Found
  | .null => .null
  | .bool value => .bool value
  | .number (.int value) => .int value
  | .number (.float value) => .float value
  | .string value => .string value
  | .array _ => .sequence
  | .object _ => .map

/-- How it is named in a message. -/
def text : Found → String
  | .null => "null"
  | .bool value => "boolean `" ++ (if value then "true" else "false") ++ "`"
  | .int value => "integer `" ++ toString value ++ "`"
  | .float value => "floating point `" ++ Number.floatText value ++ "`"
  | .string value => "string " ++ Text.quoted value
  | .sequence => "sequence"
  | .map => "map"

end Found

namespace Expected

/-- How it is named in a message. -/
def text : Expected → String
  | .word32 => "u32"
  | .word64 => "u64"
  | .integer64 => "i64"
  | .double => "f64"
  | .boolean => "a boolean"
  | .string => "a string"
  | .map => "a map"
  | .processSnapshot => "struct ProcessSnapshot"
  | .descriptorSnapshot => "struct DescriptorSnapshot"
  | .identity => "struct BasicInfo"

end Expected

namespace Mismatch

/-- The message about a value that does not fit. -/
def message : Mismatch → String
  | .missing field => "missing field `" ++ field ++ "`"
  | .duplicate field => "duplicate field `" ++ field ++ "`"
  | .type found expected => "invalid type: " ++ found.text ++ ", expected " ++ expected.text
  | .range value expected =>
    "invalid value: " ++ (Found.int value).text ++ ", expected " ++ expected.text
  | .notStatus => "data did not match any variant of untagged enum StatusResponse"

end Mismatch

namespace Json

/-- The mismatch of a value with what was expected of it. -/
def mismatch (value : Json) (expected : Expected) : Mismatch := .type (.ofJson value) expected

/-- Reads a whole number from `0` to `2 ^ 32 - 1`. -/
def toWord32 : Json → Except Mismatch UInt32
  | .number (.int n) =>
    if 0 ≤ n ∧ n < UInt32.size then .ok n.toNat.toUInt32 else .error (.range n .word32)
  | value => .error (value.mismatch .word32)

/-- Reads a whole number from `0` to `2 ^ 64 - 1`. -/
def toWord64 : Json → Except Mismatch UInt64
  | .number (.int n) =>
    if 0 ≤ n ∧ n < UInt64.size then .ok n.toNat.toUInt64 else .error (.range n .word64)
  | value => .error (value.mismatch .word64)

/-- Reads a whole number from `-2 ^ 63` to `2 ^ 63 - 1`. -/
def toInteger64 : Json → Except Mismatch Int64
  | .number (.int n) =>
    if Int64.minValue.toInt ≤ n ∧ n ≤ Int64.maxValue.toInt then .ok (Int64.ofInt n)
    else .error (.range n .integer64)
  | value => .error (value.mismatch .integer64)

/-- Reads any number as a double. -/
def toDouble : Json → Except Mismatch Float
  | .number n => .ok n.toFloat
  | value => .error (value.mismatch .double)

def toBoolean : Json → Except Mismatch Bool
  | .bool b => .ok b
  | value => .error (value.mismatch .boolean)

def toText : Json → Except Mismatch String
  | .string s => .ok s
  | value => .error (value.mismatch .string)

def toFields (expected : Expected) : Json → Except Mismatch Fields
  | .object fields => .ok fields
  | value => .error (value.mismatch expected)

/-- Reads `null` as nothing and any other value with `read`. -/
def toOption {α : Type} (read : Json → Except Mismatch α) : Json → Except Mismatch (Option α)
  | .null => .ok none
  | value => (read value).map some

/-- Reads every field of an object with `read`, in the order of the object. -/
def toMap {α : Type} (read : Json → Except Mismatch α) (value : Json) :
    Except Mismatch (SortedMap String α) := do
  let fields ← value.toFields .map
  fields.foldlM (fun map field => return map.insert field.1 (← read field.2)) SortedMap.empty

def ofWord32 (n : UInt32) : Json := nat n.toNat

def ofWord64 (n : UInt64) : Json := nat n.toNat

def ofInteger64 (n : Int64) : Json := .number (.int n.toInt)

/-- Writes the entries of a map as the fields of an object, in the order of their keys. -/
def ofMap {α : Type} (write : α → Json) (map : SortedMap String α) : Json :=
  .object (map.entries.map fun e => (e.1, write e.2))

/-- A field with a value if there is one, and no field otherwise. -/
def optionalField {α : Type} (key : String) (write : α → Json) : Option α → Fields
  | some value => [(key, write value)]
  | none => []

end Json

end ProcessWatch

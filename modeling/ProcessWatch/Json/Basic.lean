/-!
# JSON values

Values as the monitor sends them: whole numbers stay apart from floating-point ones, and an object
keeps its fields in the order in which they came. Two objects are equal whatever that order is.
-/

namespace ProcessWatch

/-- A JSON number. `1` and `1.0` are different numbers. -/
inductive Number where
  | int (value : Int)
  | float (value : Float)
deriving Repr, DecidableEq

/-- A JSON value; an object is the list of its fields. -/
inductive Json where
  | null
  | bool (value : Bool)
  | number (value : Number)
  | string (value : String)
  | array (items : List Json)
  | object (fields : List (String × Json))
deriving Repr, Inhabited

abbrev Fields := List (String × Json)

namespace Number

/-- Equality of numbers: whole numbers by value, floating-point ones as floating point compares, so
that the two zeros are equal. -/
def same : Number → Number → Bool
  | .int a, .int b => a == b
  | .float a, .float b => a == b
  | _, _ => false

instance : BEq Number := ⟨same⟩

/-- The number as a double, rounded to the nearest one. -/
def toFloat : Number → Float
  | .int value => Float.ofInt value
  | .float value => value

end Number

namespace Fields

def get? (key : String) : Fields → Option Json
  | [] => none
  | (k, v) :: rest => if k = key then some v else get? key rest

def has (key : String) (fields : Fields) : Bool := (get? key fields).isSome

/-- Gives the field named `key` a value. A field that is there keeps its place, a new one goes to
the end. -/
def set (key : String) (value : Json) : Fields → Fields
  | [] => [(key, value)]
  | (k, v) :: rest => if k = key then (k, value) :: rest else (k, v) :: set key value rest

/-- Gives the field named `key` a value unless there is one. -/
def setIfAbsent (key : String) (value : Json) (fields : Fields) : Fields :=
  if has key fields then fields else set key value fields

/-- The fields whose names are not among `names`. -/
def without (names : List String) (fields : Fields) : Fields :=
  fields.filter fun field => !names.contains field.1

def names (fields : Fields) : List String := fields.map Prod.fst

/-! ## Look-up -/

/-- A field that was set is found, and every other one is as it was. -/
theorem get?_set (key : String) (value : Json) (k : String) (fields : Fields) :
    get? k (set key value fields) = if key = k then some value else get? k fields := by
  induction fields with
  | nil => simp [set, get?]
  | cons field rest ih =>
    obtain ⟨k', v'⟩ := field
    by_cases h : k' = key
    · subst h
      by_cases hk : k' = k <;> simp [set, get?, hk]
    · by_cases hk : k' = k
      · subst hk
        simp [set, get?, h, Ne.symm h]
      · simp [set, get?, h, hk, ih]

/-- A new name stands behind all others. -/
theorem names_set (key : String) (value : Json) (fields : Fields) :
    names (set key value fields)
      = if key ∈ names fields then names fields else names fields ++ [key] := by
  induction fields with
  | nil => simp [set, names]
  | cons field rest ih =>
    obtain ⟨k, v⟩ := field
    by_cases h : k = key
    · subst h; simp [set, names]
    · have cons_set : names (set key value ((k, v) :: rest)) = k :: names (set key value rest) := by
        simp [set, names, h]
      have cons : names ((k, v) :: rest) = k :: names rest := rfl
      rw [cons_set, ih, cons]
      by_cases hm : key ∈ names rest
      · simp [hm]
      · simp [hm, Ne.symm h]

/-- What was left out is not found any more, and all else is. -/
theorem get?_without (excluded : List String) (k : String) (fields : Fields) :
    get? k (without excluded fields) = if k ∈ excluded then none else get? k fields := by
  induction fields with
  | nil => simp [without, get?]
  | cons field rest ih =>
    obtain ⟨k', v'⟩ := field
    have cons : without excluded ((k', v') :: rest)
        = if k' ∈ excluded then without excluded rest else (k', v') :: without excluded rest := by
      by_cases h : k' ∈ excluded <;> simp [without, h]
    rw [cons]
    by_cases h : k' ∈ excluded
    · by_cases hk : k' = k
      · subst hk; simp [h, ih]
      · simp [h, ih, get?, hk]
    · by_cases hk : k' = k
      · subst hk; simp [h, get?]
      · simp [h, get?, hk, ih]

end Fields

namespace Json

def nat (n : Nat) : Json := .number (.int n)

def float (x : Float) : Json := .number (.float x)

/-- The value of the field named `key`, if the value is an object that has one. -/
def field? (key : String) : Json → Option Json
  | .object fields => Fields.get? key fields
  | _ => none

def isArray : Json → Bool
  | .array _ => true
  | _ => false

def isObject : Json → Bool
  | .object _ => true
  | _ => false

def isNull : Json → Bool
  | .null => true
  | _ => false

/-! ## Equality -/

mutual

/-- Equality of values; objects are equal if each has the fields of the other, in any order. -/
def same : Json → Json → Bool
  | .null, .null => true
  | .bool a, .bool b => a == b
  | .number a, .number b => a == b
  | .string a, .string b => a == b
  | .array a, .array b => sameItems a b
  | .object a, .object b => a.length == b.length && sameFields a b
  | _, _ => false

def sameItems : List Json → List Json → Bool
  | [], [] => true
  | a :: as, b :: bs => same a b && sameItems as bs
  | _, _ => false

/-- Whether every one of some fields has an equal value in another object. -/
def sameFields : List (String × Json) → List (String × Json) → Bool
  | [], _ => true
  | (key, value) :: rest, others =>
    (match Fields.get? key others with
      | some other => same value other
      | none => false)
    && sameFields rest others

end

instance : BEq Json := ⟨same⟩

end Json

end ProcessWatch

/-!
# YAML values

The values that a configuration file is made of. A scalar keeps whether it stood in quotes: only a
plain scalar can stand for a number or for no value at all.
-/

namespace ProcessWatch

/-- A YAML value. -/
inductive Yaml where
  | scalar (quoted : Bool) (text : String)
  | sequence (items : List Yaml)
  /-- A mapping, with its fields as they are written. -/
  | mapping (fields : List (Yaml × Yaml))

namespace Yaml

instance : Inhabited Yaml := ⟨.scalar false ""⟩

/-- The value that stands where nothing is written. -/
def empty : Yaml := .scalar false ""

/-- Whether a value stands for no value. -/
def isNull : Yaml → Bool
  | scalar false text => text ∈ ["", "~", "null", "Null", "NULL"]
  | _ => false

def text? : Yaml → Option String
  | scalar _ text => some text
  | _ => none

/-- The items of a sequence; where nothing is written there are none. -/
def items? : Yaml → Option (List Yaml)
  | sequence items => some items
  | scalar false "" => some []
  | _ => none

/-- The fields of a mapping whose names are scalars; where nothing is written there are none. -/
def fields? : Yaml → Option (List (String × Yaml))
  | mapping fields => fields.mapM fun (name, value) => name.text?.map (·, value)
  | scalar false "" => some []
  | _ => none

end Yaml

end ProcessWatch

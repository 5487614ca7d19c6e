import ProcessWatch.Json.Basic
import ProcessWatch.Merged

/-!
# Merging untyped attributes

Attributes of which nothing is known but their names. An incoming value replaces the one that is
there, objects are merged field by field, and `null` on either side gives way or clears. An array
meets only arrays and an object only objects: otherwise merging stops, with the fields before the
clash merged and those after it as they were.
-/

namespace ProcessWatch

namespace Attributes

mutual

/-- Merges an incoming value into the one that is there under `key`. -/
def mergeValue (key : String) (existing : Json) : Json → Merged Json
  | .object incoming =>
    match existing with
    | .null => .done (.object incoming)
    | .array _ => ⟨existing, some (.array key)⟩
    | .object current =>
      let merged := mergeFields current incoming
      ⟨.object merged.value, merged.error.map (.inside key)⟩
    | _ => ⟨existing, some (.object key)⟩
  | .array items =>
    match existing with
    | .null | .array _ => .done (.array items)
    | _ => ⟨existing, some (.array key)⟩
  | .null => .done .null
  | scalar =>
    match existing with
    | .array _ => ⟨existing, some (.array key)⟩
    | .object _ => ⟨existing, some (.object key)⟩
    | _ => .done scalar

/-- Merges incoming fields one after the other; a new one goes to the end. -/
def mergeFields (existing : List (String × Json)) : List (String × Json) → Merged Fields
  | [] => .done existing
  | (key, value) :: rest =>
    match Fields.get? key existing with
    | none => mergeFields (Fields.set key value existing) rest
    | some current =>
      let merged := mergeValue key current value
      -- what was merged below the clash is kept
      let existing := Fields.set key merged.value existing
      match merged.error with
      | some error => ⟨existing, some error⟩
      | none => mergeFields existing rest

end

def merge (existing incoming : Fields) : Merged Fields := mergeFields existing incoming

end Attributes

end ProcessWatch

import ProcessWatch.Order.SortedMap

/-!
# Merges that can be stopped

A merge changes its target part by part and stops at the first clash. What was changed before the
clash stays changed, so a merge has a value even if it failed.
-/

namespace ProcessWatch

/-- Two values that do not go together. -/
inductive MergeError where
  | array (key : String)
  | object (key : String)
  /-- A clash below the attribute named `key`. -/
  | inside (key : String) (cause : MergeError)
deriving Repr, DecidableEq

namespace MergeError

/-- The message about a clash: the names on the way to it, outermost first, and the clash. -/
def message : MergeError → String
  | .array key => "Trying to combine an array with a non-array (" ++ key ++ ")"
  | .object key => "Trying to combine an object with a non-object (" ++ key ++ ")"
  | .inside key cause => "Failed to merge attribute " ++ key ++ ": " ++ cause.message

end MergeError

/-- What a merge leaves behind, and the clash that stopped it, if one did. -/
structure Merged (α : Type) where
  value : α
  error : Option MergeError

namespace Merged

variable {κ α : Type}

def done (value : α) : Merged α := ⟨value, none⟩

/-- Merges entries one after the other into a map: the value of a new key is taken over, that of a
known one is merged with `merge`. -/
def entries [Ord κ] [Std.TransOrd κ] [Std.LawfulEqOrd κ] (merge : α → α → Merged α)
    (existing : SortedMap κ α) : List (κ × α) → Merged (SortedMap κ α)
  | [] => .done existing
  | (key, incoming) :: rest =>
    match existing.get? key with
    | none => entries merge (existing.insert key incoming) rest
    | some current =>
      let merged := merge current incoming
      let existing := existing.insert key merged.value
      match merged.error with
      | some error => ⟨existing, some error⟩
      | none => entries merge existing rest

/-- Merges two maps key by key, in the order of the keys of the incoming one. -/
def maps [Ord κ] [Std.TransOrd κ] [Std.LawfulEqOrd κ] (merge : α → α → Merged α)
    (existing incoming : SortedMap κ α) : Merged (SortedMap κ α) :=
  entries merge existing incoming.entries

end Merged

end ProcessWatch

import ProcessWatch.Proofs.Json.Fields

/-!
# Paths into values

A path is a list of names. It leads into a value through objects, from the outermost one on, and it
may end at any value.

* **`Json.at?`** — the value at the end of a path.
* **`Json.paths`** — the paths of a value in depth-first order; `mem_paths_of_at?`: it has every
  path that leads somewhere.
-/

namespace ProcessWatch

namespace Json

/-- The value at the end of a path. All that a path leads through are objects. -/
def at? : List String → Json → Option Json
  | [], value => some value
  | key :: rest, value => (value.field? key).bind (at? rest)

mutual

/-- The paths of a value: the one to the value itself, then those through its fields, in order. -/
def paths : Json → List (List String)
  | .object fields => [] :: pathsThrough fields
  | _ => [[]]

def pathsThrough : List (String × Json) → List (List String)
  | [] => []
  | (key, value) :: rest => value.paths.map (key :: ·) ++ pathsThrough rest

end

variable {value : Json} {key : String} {rest path : List String} {fields : Fields}

/-- A path into an object goes through the field under its first name. -/
@[simp] theorem at?_object_cons (key : String) (rest : List String) (fields : Fields) :
    (Json.object fields).at? (key :: rest) = (Fields.get? key fields).bind (at? rest) := rfl

/-- A path with names leads nowhere but in an object. -/
theorem at?_cons_of_not_object (h : value.isObject = false) (key : String) (rest : List String) :
    value.at? (key :: rest) = none := by
  cases value with
  | object fields => cases h
  | null | bool _ | number _ | string _ | array _ => rfl

/-- Only objects have something below a name. -/
theorem eq_object_of_at?_cons (h : value.at? (key :: rest) ≠ none) :
    ∃ fields, value = .object fields := by
  cases value with
  | object fields => exact ⟨fields, rfl⟩
  | null | bool _ | number _ | string _ | array _ => exact absurd rfl h

/-- What a path leads to an object in is an object. -/
theorem eq_object_of_at? (h : value.at? path = some (.object fields)) :
    ∃ fields, value = .object fields := by
  cases path with
  | nil => exact ⟨fields, Option.some.inj h⟩
  | cons key rest => exact eq_object_of_at?_cons (Option.ne_none_iff_exists'.2 ⟨_, h⟩)

/-- A path of the value of a field, behind the name of the field, is a path through the fields. -/
theorem mem_pathsThrough (hfield : (key, value) ∈ fields) (hrest : rest ∈ value.paths) :
    key :: rest ∈ pathsThrough fields := by
  induction fields with
  | nil => cases hfield
  | cons first fields ih =>
    obtain ⟨k, v⟩ := first
    rw [pathsThrough, List.mem_append]
    rcases List.mem_cons.1 hfield with heq | hmem
    · cases heq
      exact .inl (List.mem_map.2 ⟨rest, hrest, rfl⟩)
    · exact .inr (ih hmem)

/-- The paths through some fields begin with their names. -/
theorem of_mem_pathsThrough (h : path ∈ pathsThrough fields) :
    ∃ key rest, path = key :: rest ∧ key ∈ Fields.names fields := by
  induction fields with
  | nil => cases h
  | cons first fields ih =>
    obtain ⟨k, v⟩ := first
    rw [pathsThrough, List.mem_append] at h
    rcases h with hfirst | hrest
    · obtain ⟨rest, _, rfl⟩ := List.mem_map.1 hfirst
      exact ⟨k, rest, rfl, List.mem_cons_self⟩
    · obtain ⟨key, rest, rfl, hkey⟩ := ih hrest
      exact ⟨key, rest, rfl, List.mem_cons_of_mem _ hkey⟩

/-- The first path of a value is the one to the value itself. -/
theorem paths_eq_cons (value : Json) : value.paths = [] :: value.paths.tail := by
  cases value <;> rfl

/-- All other paths of a value begin with a name. -/
theorem eq_cons_of_mem_tail_paths (h : path ∈ value.paths.tail) :
    ∃ key rest, path = key :: rest := by
  cases value with
  | object fields =>
    obtain ⟨key, rest, rfl, _⟩ := of_mem_pathsThrough h
    exact ⟨key, rest, rfl⟩
  | null | bool _ | number _ | string _ | array _ => cases h

/-- The empty path leads to the value itself. -/
theorem nil_mem_paths (value : Json) : [] ∈ value.paths := by
  rw [paths_eq_cons]
  exact List.mem_cons_self

/-- What leads somewhere is a path of the value. -/
theorem mem_paths_of_at? (h : value.at? path ≠ none) : path ∈ value.paths := by
  induction path generalizing value with
  | nil => exact nil_mem_paths value
  | cons key rest ih =>
    obtain ⟨fields, rfl⟩ := eq_object_of_at?_cons h
    rw [at?_object_cons] at h
    cases hget : Fields.get? key fields with
    | none =>
      rw [hget] at h
      exact absurd rfl h
    | some inner =>
      rw [hget] at h
      exact List.mem_cons_of_mem _ (mem_pathsThrough (Fields.mem_of_get? hget) (ih h))

end Json

end ProcessWatch

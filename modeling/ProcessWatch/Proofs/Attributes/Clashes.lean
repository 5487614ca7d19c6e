import ProcessWatch.Proofs.Attributes
import ProcessWatch.Proofs.Json.Paths

/-!
# When attributes merge, and to what

Untyped attributes merge unless they clash somewhere: a path that leads through objects on both
sides ends at two values of which one is an array, or an object, and the other is not. If they
clash, the error names the first path of the incoming attributes at which they do. If they do not,
the outcome is told level by level, for all objects that were merged with one another.

What was merged before a clash stays merged, so one has to see that the fields that come later do
not meet it: a path through a later field begins with another name.

## The architecture

* **`MergeError.ofPath`** — the error about the end of a path; `message_ofPath` for its text.
* **`Clash`**, **`ClashAt`** — two values clash, and two values clash at the end of a path.
* **`clashAt?`** — the same as a computation, with the cause that is reported.
* **`error_mergeValue`** — the error of a merge is that of the first path at which there is a clash.
  The induction is over the incoming value; `error_mergeFields` is its step at an object.
* **`Joined`** — what a merge makes of two objects, field by field (`joined_merge`), and of the
  objects inside them (`joined_at`).
* **`merge_by_paths`** — all of this for attributes, and that a second merge changes nothing.
-/

namespace ProcessWatch

/-- The error about a clash at the end of a path: the names on the way lead to it. -/
def MergeError.ofPath (cause : String → MergeError) : String → List String → MergeError
  | key, [] => cause key
  | key, next :: rest => .inside key (ofPath cause next rest)

/-- The message has the names on the way, outermost first, and then what is said of the last one. -/
theorem MergeError.message_ofPath (cause : String → MergeError) (key : String)
    (rest : List String) :
    (ofPath cause key rest).message =
      String.join
          ((key :: rest).dropLast.map fun name => "Failed to merge attribute " ++ name ++ ": ")
        ++ (cause ((key :: rest).getLast (List.cons_ne_nil key rest))).message := by
  induction rest generalizing key with
  | nil =>
    rw [ofPath, List.dropLast_singleton, List.map_nil, String.join_nil, String.empty_append,
      List.getLast_singleton]
  | cons next rest ih =>
    have hinside : (ofPath cause key (next :: rest)).message
        = "Failed to merge attribute " ++ key ++ ": " ++ (ofPath cause next rest).message := rfl
    rw [hinside, ih next, List.dropLast_cons_cons, List.map_cons, String.join_cons,
      List.getLast_cons (List.cons_ne_nil next rest)]
    exact String.append_assoc.symm

namespace Attributes

open Json (at? paths pathsThrough)

variable {x y existing incoming : Json} {key : String} {rest path : List String}

/-! ## Clashes -/

/-- Two values that do not go together. -/
structure Clash (existing incoming : Json) : Prop where
  existing_ne_null : existing.isNull = false
  incoming_ne_null : incoming.isNull = false
  shapes : existing.isArray ≠ incoming.isArray ∨ existing.isObject ≠ incoming.isObject

instance (existing incoming : Json) : Decidable (Clash existing incoming) :=
  decidable_of_iff (existing.isNull = false ∧ incoming.isNull = false ∧
      (existing.isArray ≠ incoming.isArray ∨ existing.isObject ≠ incoming.isObject))
    ⟨fun ⟨existing, incoming, shapes⟩ => ⟨existing, incoming, shapes⟩,
      fun ⟨existing, incoming, shapes⟩ => ⟨existing, incoming, shapes⟩⟩

/-- Two objects never clash themselves; only something inside them can. -/
theorem not_clash_objects (existing incoming : Fields) :
    ¬ Clash (.object existing) (.object incoming) :=
  fun h => h.shapes.elim (absurd rfl) (absurd rfl)

/-- Two values that do not go together are at the end of a path. It leads to them through
objects. -/
def ClashAt (existing incoming : Json) (path : List String) : Prop :=
  ∃ x y, existing.at? path = some x ∧ incoming.at? path = some y ∧ Clash x y

/-- What is said about a clash of two values. -/
def clashCause (existing incoming : Json) : String → MergeError :=
  if existing.isArray = incoming.isArray then .object else .array

/-- What is said about two values, if they clash. -/
def clash? (existing incoming : Json) : Option (String → MergeError) :=
  if Clash existing incoming then some (clashCause existing incoming) else none

/-- What is said about the values at the end of a path, if they clash. -/
def clashAt? (existing incoming : Json) (path : List String) : Option (String → MergeError) :=
  (existing.at? path).bind fun x => (incoming.at? path).bind fun y => clash? x y

/-- The cause of the clash at a path is read off the two values there. -/
theorem clashAt?_eq_some_iff {cause : String → MergeError} :
    clashAt? existing incoming path = some cause ↔
      ∃ x y, existing.at? path = some x ∧ incoming.at? path = some y ∧ Clash x y ∧
        cause = clashCause x y := by
  simp only [clashAt?, clash?, Option.bind_eq_some_iff, Option.ite_none_right_eq_some,
    Option.some.injEq]
  constructor
  · rintro ⟨x, hx, y, hy, hclash, rfl⟩
    exact ⟨x, y, hx, hy, hclash, rfl⟩
  · rintro ⟨x, y, hx, hy, hclash, rfl⟩
    exact ⟨x, hx, y, hy, hclash, rfl⟩

/-- There is no cause exactly if the two values at the path do not clash. -/
theorem clashAt?_eq_none_iff :
    clashAt? existing incoming path = none ↔ ¬ ClashAt existing incoming path := by
  rw [Option.eq_none_iff_forall_ne_some]
  constructor
  · rintro h ⟨x, y, hx, hy, hclash⟩
    exact h _ (clashAt?_eq_some_iff.2 ⟨x, y, hx, hy, hclash, rfl⟩)
  · intro h cause hcause
    obtain ⟨x, y, hx, hy, hclash, _⟩ := clashAt?_eq_some_iff.1 hcause
    exact h ⟨x, y, hx, hy, hclash⟩

/-- Where one side is no object, only the values themselves can clash. -/
theorem clashAt?_cons_of_not_object (h : x.isObject = false ∨ y.isObject = false) :
    clashAt? x y (key :: rest) = none := by
  unfold clashAt?
  rcases h with h | h
  · rw [Json.at?_cons_of_not_object h]
    rfl
  · rw [Json.at?_cons_of_not_object h]
    cases x.at? (key :: rest) <;> rfl

/-- A path through two objects goes on at the fields that its first name has on both sides. -/
theorem clashAt?_objects_cons (existing incoming : Fields) :
    clashAt? (.object existing) (.object incoming) (key :: rest) =
      (Fields.get? key existing).bind fun x =>
        (Fields.get? key incoming).bind fun y => clashAt? x y rest := by
  unfold clashAt?
  rw [Json.at?_object_cons, Json.at?_object_cons]
  cases Fields.get? key existing with
  | none => rfl
  | some x =>
    cases Fields.get? key incoming with
    | none =>
      change ((x.at? rest).bind fun _ => none) = none
      exact Option.bind_fun_none _
    | some y => rfl

/-- A path that begins with a later name does not meet what became of the first field. -/
theorem clashAt?_later {existing rest : Fields} {name : String} {value : Json}
    (hname : name ∉ Fields.names rest) (hpath : path ∈ pathsThrough rest) (merged : Json) :
    clashAt? (.object existing) (.object ((name, value) :: rest)) path
      = clashAt? (.object (Fields.set name merged existing)) (.object rest) path := by
  obtain ⟨key, below, rfl, hkey⟩ := Json.of_mem_pathsThrough hpath
  have hne : name ≠ key := fun heq => hname (heq ▸ hkey)
  rw [clashAt?_objects_cons, clashAt?_objects_cons, Fields.get?_set, if_neg hne, Fields.get?,
    if_neg hne]

/-! ## The first clash

Paths are ordered as a merge meets them, depth first. The error names the first one at which two
values clash, so what was merged before it must not hide or make a clash. -/

/-- What is said about the first clash on some paths below a name. -/
def firstClash (key : String) (existing incoming : Json) (paths : List (List String)) :
    Option MergeError :=
  paths.findSome? fun path =>
    (clashAt? existing incoming path).map fun cause => .ofPath cause key path

/-- Only the values at the ends of the paths count. -/
theorem firstClash_congr (key : String) {existing incoming : Json} {paths : List (List String)}
    (h : ∀ path ∈ paths, clashAt? x y path = clashAt? existing incoming path) :
    firstClash key x y paths = firstClash key existing incoming paths := by
  induction paths with
  | nil => rfl
  | cons path rest ih =>
    obtain ⟨hpath, hrest⟩ := List.forall_mem_cons.1 h
    have hlater := ih hrest
    unfold firstClash at hlater ⊢
    rw [List.findSome?_cons, List.findSome?_cons, hpath, hlater]

/-- The first clash among the paths of two lists is that of the first list, if it has one. -/
theorem firstClash_append (key : String) (existing incoming : Json)
    (before after : List (List String)) :
    firstClash key existing incoming (before ++ after) =
      (firstClash key existing incoming before).or (firstClash key existing incoming after) :=
  List.findSome?_append

/-- Where one side is no object, only the values themselves can clash. -/
theorem firstClash_of_not_objects (key : String)
    (h : existing.isObject = false ∨ incoming.isObject = false) :
    firstClash key existing incoming incoming.paths
      = (clash? existing incoming).map fun cause => cause key := by
  have below : firstClash key existing incoming incoming.paths.tail = none := by
    refine List.findSome?_eq_none_iff.2 fun path hpath => ?_
    obtain ⟨name, rest, rfl⟩ := Json.eq_cons_of_mem_tail_paths hpath
    rw [clashAt?_cons_of_not_object h]
    rfl
  have self : firstClash key existing incoming [[]]
      = (clash? existing incoming).map fun cause => cause key := by
    change List.findSome? _ [[]] = _
    rw [List.findSome?_singleton]
    rfl
  rw [Json.paths_eq_cons, ← List.singleton_append, firstClash_append, self, below, Option.or_none]

/-- Two objects do not clash; what is below them may. -/
theorem firstClash_objects (key : String) (existing incoming : Fields) :
    firstClash key (.object existing) (.object incoming) (Json.object incoming).paths
      = firstClash key (.object existing) (.object incoming) (pathsThrough incoming) :=
  rfl

/-- The paths through the first field lead to the clashes of its values. -/
theorem firstClash_first (key : String) {existing rest : Fields} {name : String} {value : Json}
    (paths : List (List String)) :
    firstClash key (.object existing) (.object ((name, value) :: rest)) (paths.map (name :: ·)) =
      (Fields.get? name existing).bind fun current =>
        (firstClash name current value paths).map (.inside key) := by
  have hget : Fields.get? name ((name, value) :: rest) = some value := by
    rw [Fields.get?, if_pos rfl]
  unfold firstClash
  rw [List.findSome?_map]
  -- a name that is new to the existing fields clashes nowhere below it
  cases hx : Fields.get? name existing with
  | none =>
    refine List.findSome?_eq_none_iff.2 fun path _ => ?_
    rw [Function.comp_apply, clashAt?_objects_cons, hx]
    rfl
  | some current =>
    have hpath (path : List String) :
        clashAt? (.object existing) (.object ((name, value) :: rest)) (name :: path)
          = clashAt? current value path := by
      rw [clashAt?_objects_cons, hx, hget]
      rfl
    simp only [Option.bind_some, List.map_findSome?, Function.comp_def, hpath, Option.map_map]
    rfl

/-- Two objects without a field clash as those with one do along the paths that do not go through
it, whatever the field became on one side. -/
theorem firstClash_later (key : String) {existing rest : Fields} {name : String} {value : Json}
    (hname : name ∉ Fields.names rest) (merged : Json) :
    firstClash key (.object (Fields.set name merged existing)) (.object rest) (pathsThrough rest)
      = firstClash key (.object existing) (.object ((name, value) :: rest)) (pathsThrough rest) :=
  firstClash_congr key fun _ hpath => (clashAt?_later hname hpath merged).symm

/-! ## The error of a merge -/

/-- Where not both values are objects, nothing lies below them, and the error is about them. -/
theorem error_mergeValue_of_not_objects (key : String)
    (h : existing.isObject = false ∨ incoming.isObject = false) :
    (mergeValue key existing incoming).error
      = (clash? existing incoming).map fun cause => cause key := by
  cases existing <;> cases incoming <;> first | rfl | simp [Json.isObject] at h

/-- The error of merging fields, if their values have the errors of their first clashes. Induction
on the incoming fields: what the first one became is not met by the paths through the others. -/
theorem error_mergeFields {incoming : Fields} (names : (Fields.names incoming).Nodup)
    (values : ∀ field ∈ incoming, ∀ key existing,
      (mergeValue key existing field.2).error = firstClash key existing field.2 field.2.paths)
    (key : String) (existing : Fields) :
    (mergeFields existing incoming).error.map (.inside key)
      = firstClash key (.object existing) (.object incoming) (pathsThrough incoming) := by
  induction incoming generalizing existing with
  | nil => rfl
  | cons field rest ih =>
    obtain ⟨name, value⟩ := field
    have hnodup : name ∉ Fields.names rest ∧ (Fields.names rest).Nodup := List.nodup_cons.1 names
    obtain ⟨hvalue, hvalues⟩ := List.forall_mem_cons.1 values
    -- the paths through the first field come first, then those through the others
    rw [pathsThrough, firstClash_append, firstClash_first]
    cases hget : Fields.get? name existing with
    | none =>
      rw [mergeFields_new hget, ih hnodup.2 hvalues, firstClash_later key hnodup.1]
      rfl
    | some current =>
      rw [Option.bind_some, ← hvalue name current]
      cases herr : (mergeValue name current value).error with
      | none =>
        rw [mergeFields_known hget (Merged.eq_done herr), ih hnodup.2 hvalues,
          firstClash_later key hnodup.1]
        rfl
      | some error =>
        rw [mergeFields_clash hget herr]
        rfl

/-- The error of merging a value is that of the first path at which it clashes. -/
theorem error_mergeValue (unique : incoming.Unique) (key : String) (existing : Json) :
    (mergeValue key existing incoming).error = firstClash key existing incoming incoming.paths := by
  induction unique generalizing key existing with
  | null | bool _ | number _ | string _ | array _ _ =>
    rw [error_mergeValue_of_not_objects key (.inr rfl), firstClash_of_not_objects key (.inr rfl)]
  | @object fields names _ ih =>
    cases existing with
    | object current =>
      -- the only case in which there is anything below the two values
      rw [mergeValue_objects, firstClash_objects, error_mergeFields names ih]
    | null | bool _ | number _ | string _ | array _ =>
      rw [error_mergeValue_of_not_objects key (.inl rfl), firstClash_of_not_objects key (.inl rfl)]

/-! ## What two objects become

Without a clash the result is told one level at a time: what both sides have is merged, and what one
side has stays or is taken over. Objects inside are results of the same kind. -/

/-- What merging two objects makes of them, field by field. -/
structure Joined (existing incoming merged : Fields) : Prop where
  /-- The names that were there in their order, then the new ones in theirs. -/
  names : Fields.names merged =
    Fields.names existing ++ (Fields.names incoming).filter (· ∉ Fields.names existing)
  kept : ∀ key, Fields.get? key incoming = none → Fields.get? key merged = Fields.get? key existing
  added : ∀ key, Fields.get? key existing = none → Fields.get? key merged = Fields.get? key incoming
  /-- Any two values but two objects: the incoming one counts. `null` is no object. -/
  replaced : ∀ key x y, Fields.get? key existing = some x → Fields.get? key incoming = some y →
    x.isObject = false ∨ y.isObject = false → Fields.get? key merged = some y
  nested : ∀ key x y, Fields.get? key existing = some (.object x) →
    Fields.get? key incoming = some (.object y) →
    ∃ z, Fields.get? key merged = some (.object z) ∧ merge x y = .done z

/-- Any two values but two objects: if they merge at all, the incoming one counts. -/
theorem mergeValue_of_not_objects {merged : Json} (h : mergeValue key x y = .done merged)
    (hshapes : x.isObject = false ∨ y.isObject = false) : merged = y := by
  cases x <;> cases y <;> first | cases h <;> rfl | simp [Json.isObject] at hshapes

/-- Two objects that merge become an object, which is the merge of their fields. -/
theorem mergeValue_eq_done_of_objects {x y : Fields} {merged : Json}
    (h : mergeValue key (.object x) (.object y) = .done merged) :
    ∃ z, merged = .object z ∧ merge x y = .done z := by
  rw [mergeValue_objects] at h
  have herr : (mergeFields x y).error = none :=
    Option.map_eq_none_iff.1 (congrArg Merged.error h)
  exact ⟨(mergeFields x y).value, (congrArg Merged.value h).symm, Merged.eq_done herr⟩

/-- The names after a merge. Induction on the incoming fields, of which each is new or known. -/
theorem names_mergeFields {incoming : Fields} (names : (Fields.names incoming).Nodup)
    {existing m : Fields} (h : mergeFields existing incoming = .done m) :
    Fields.names m =
      Fields.names existing ++ (Fields.names incoming).filter (· ∉ Fields.names existing) := by
  induction incoming generalizing existing with
  | nil =>
    cases h
    exact (List.append_nil _).symm
  | cons field rest ih =>
    obtain ⟨name, value⟩ := field
    have hnodup : name ∉ Fields.names rest ∧ (Fields.names rest).Nodup := List.nodup_cons.1 names
    have hnames : Fields.names ((name, value) :: rest) = name :: Fields.names rest := rfl
    rcases mergeFields_cons h with ⟨hget, hm⟩ | ⟨current, merged, hget, _, hm⟩
    · -- a new name is now there, which does not count for those that follow: they are others
      have hnew : name ∉ Fields.names existing := Fields.get?_eq_none_iff.1 hget
      have hrest : (Fields.names rest).filter (· ∉ Fields.names existing ++ [name])
          = (Fields.names rest).filter (· ∉ Fields.names existing) := by
        refine List.filter_congr fun other hother => ?_
        have hne : other ≠ name := fun heq => hnodup.1 (heq ▸ hother)
        simp [hne]
      rw [ih hnodup.2 hm, Fields.names_set, if_neg hnew, hrest, hnames,
        List.filter_cons_of_pos (by simpa using hnew), List.append_assoc]
      rfl
    · have hknown : name ∈ Fields.names existing :=
        List.mem_map.2 ⟨(name, current), Fields.mem_of_get? hget, rfl⟩
      rw [ih hnodup.2 hm, Fields.names_set, if_pos hknown, hnames,
        List.filter_cons_of_neg (by simpa using hknown)]

/-- A merge that goes through joins the fields of both sides. -/
theorem joined_merge {existing incoming merged : Fields} (names : (Fields.names incoming).Nodup)
    (h : merge existing incoming = .done merged) : Joined existing incoming merged := by
  have hmerge : mergeFields existing incoming = .done merged := h
  -- a name is only there before, only in what comes in, or in both; `met` is shared by the cases of
  -- two objects and of other values
  have kept (key : String) (hkey : Fields.get? key incoming = none) :
      Fields.get? key merged = Fields.get? key existing := by
    have hget := get?_mergeFields_of_not_mem (Fields.get?_eq_none_iff.1 hkey) existing
    rwa [hmerge] at hget
  have added (key : String) (y : Json) (hx : Fields.get? key existing = none)
      (hy : Fields.get? key incoming = some y) : Fields.get? key merged = some y := by
    rcases of_get?_mergeFields names hmerge hy with ⟨_, hm⟩ | ⟨x, _, hx', _⟩
    · exact hm
    · rw [hx] at hx'
      cases hx'
  have met (key : String) (x y : Json) (hx : Fields.get? key existing = some x)
      (hy : Fields.get? key incoming = some y) :
      ∃ z, mergeValue key x y = .done z ∧ Fields.get? key merged = some z := by
    rcases of_get?_mergeFields names hmerge hy with ⟨hnone, _⟩ | ⟨x', z, hx', hvalue, hm⟩
    · rw [hx] at hnone
      cases hnone
    · rw [hx] at hx'
      cases hx'
      exact ⟨z, hvalue, hm⟩
  refine ⟨names_mergeFields names hmerge, kept, fun key hx => ?_, fun key x y hx hy hshapes => ?_,
    fun key x y hx hy => ?_⟩
  · cases hy : Fields.get? key incoming with
    | none => rw [kept key hy, hx]
    | some y => exact added key y hx hy
  · obtain ⟨z, hvalue, hm⟩ := met key x y hx hy
    rw [hm, mergeValue_of_not_objects hvalue hshapes]
  · obtain ⟨z, hvalue, hm⟩ := met key (.object x) (.object y) hx hy
    obtain ⟨inner, rfl, hinner⟩ := mergeValue_eq_done_of_objects hvalue
    exact ⟨inner, hm, hinner⟩

/-- Objects that a path leads to on both sides were joined. Induction on the path: all that it leads
through are objects on both sides, so they were merged as well. -/
theorem joined_at {existing incoming merged : Fields} (unique : incoming.Unique)
    (h : merge existing incoming = .done merged) {x y : Fields}
    (hx : (Json.object existing).at? path = some (.object x))
    (hy : (Json.object incoming).at? path = some (.object y)) :
    ∃ z, (Json.object merged).at? path = some (.object z) ∧ Joined x y z := by
  induction path generalizing existing incoming merged with
  | nil =>
    cases hx
    cases hy
    exact ⟨merged, rfl, joined_merge unique.1 h⟩
  | cons key rest ih =>
    rw [Json.at?_object_cons, Option.bind_eq_some_iff] at hx hy
    obtain ⟨inner, hinner, hx⟩ := hx
    obtain ⟨added, hadded, hy⟩ := hy
    obtain ⟨inner, rfl⟩ := Json.eq_object_of_at? hx
    obtain ⟨added, rfl⟩ := Json.eq_object_of_at? hy
    -- the objects under the first name were merged in turn, so the rest of the path starts there
    obtain ⟨outcome, hget, hmerge⟩ := (joined_merge unique.1 h).nested key inner added hinner hadded
    have hunique : Fields.Unique added :=
      Json.unique_object_iff.1 (unique.2 _ (Fields.mem_of_get? hadded))
    obtain ⟨z, hz, hjoined⟩ := ih hunique hmerge hx hy
    refine ⟨z, ?_, hjoined⟩
    rw [Json.at?_object_cons, hget]
    exact hz

/-! ## All of a merge -/

/-- An error that is about the first path of the incoming fields at which they clash, and names
it. -/
def NamesFirstClash (existing incoming : Fields) (error : MergeError) : Prop :=
  ∃ before key rest after x y, (Json.object incoming).paths = before ++ (key :: rest) :: after ∧
    (∀ path ∈ before, ¬ ClashAt (.object existing) (.object incoming) path) ∧
    (Json.object existing).at? (key :: rest) = some x ∧
    (Json.object incoming).at? (key :: rest) = some y ∧
    Clash x y ∧ error = .ofPath (clashCause x y) key rest

/-- Wherever there are objects on both sides, they were joined. -/
def JoinedThroughout (existing incoming merged : Fields) : Prop :=
  ∀ path x y, (Json.object existing).at? path = some (.object x) →
    (Json.object incoming).at? path = some (.object y) →
    ∃ z, (Json.object merged).at? path = some (.object z) ∧ Joined x y z

/-- The error of a merge is about the first of the incoming paths that has a clash at it. -/
theorem error_merge {incoming : Fields} (unique : incoming.Unique) (key : String)
    (existing : Fields) :
    (merge existing incoming).error.map (.inside key)
      = firstClash key (.object existing) (.object incoming) (Json.object incoming).paths := by
  rw [← error_mergeValue (Json.unique_object_iff.2 unique), mergeValue_objects]
  rfl

/-- An error names a path of the incoming fields with a clash, and no path before it has one. -/
theorem namesFirstClash_of_error {existing incoming : Fields} (unique : incoming.Unique)
    {error : MergeError} (h : (merge existing incoming).error = some error) :
    NamesFirstClash existing incoming error := by
  have hfirst := error_merge unique "" existing
  rw [h, eq_comm, Option.map_some] at hfirst
  obtain ⟨before, path, after, hpaths, hpath, hbefore⟩ := List.findSome?_eq_some_iff.1 hfirst
  obtain ⟨cause, hcause, hnamed⟩ := Option.map_eq_some_iff.1 hpath
  obtain ⟨x, y, hx, hy, hclash, rfl⟩ := clashAt?_eq_some_iff.1 hcause
  -- the empty path is the two objects themselves, which do not clash
  cases path with
  | nil =>
    cases hx
    cases hy
    exact absurd hclash (not_clash_objects existing incoming)
  | cons key rest =>
    refine ⟨before, key, rest, after, x, y, hpaths, fun path hmem => ?_, hx, hy, hclash, ?_⟩
    · exact clashAt?_eq_none_iff.1 (Option.map_eq_none_iff.1 (hbefore path hmem))
    · exact (MergeError.inside.inj hnamed).2.symm

/-- A merge fails exactly if there is a clash at some path. -/
theorem merge_error_ne_none_iff {existing incoming : Fields} (unique : incoming.Unique) :
    (merge existing incoming).error ≠ none ↔
      ∃ path, ClashAt (.object existing) (.object incoming) path := by
  constructor
  · intro h
    obtain ⟨error, herr⟩ := Option.ne_none_iff_exists'.1 h
    obtain ⟨_, key, rest, _, x, y, _, _, hx, hy, hclash, _⟩ := namesFirstClash_of_error unique herr
    exact ⟨key :: rest, x, y, hx, hy, hclash⟩
  · rintro ⟨path, x, y, hx, hy, hclash⟩ hnone
    have hfirst := error_merge unique "" existing
    rw [hnone, eq_comm, Option.map_none] at hfirst
    have hpath : path ∈ (Json.object incoming).paths :=
      Json.mem_paths_of_at? (Option.ne_none_iff_exists'.2 ⟨y, hy⟩)
    have hat := List.findSome?_eq_none_iff.1 hfirst path hpath
    exact clashAt?_eq_none_iff.1 (Option.map_eq_none_iff.1 hat) ⟨x, y, hx, hy, hclash⟩

/-- Merging fields fails exactly if they clash at some path; the error then names the first such
path of the incoming fields. If it does not fail, all objects that were merged with one another are
joined, and merging the same fields again changes nothing. -/
theorem merge_by_paths {existing incoming : Fields} (unique : incoming.Unique) :
    ((merge existing incoming).error ≠ none ↔
      ∃ path, ClashAt (.object existing) (.object incoming) path) ∧
    (∀ error, (merge existing incoming).error = some error →
      NamesFirstClash existing incoming error) ∧
    (∀ merged, merge existing incoming = .done merged →
      JoinedThroughout existing incoming merged ∧ merge merged incoming = .done merged) := by
  refine ⟨merge_error_ne_none_iff unique, fun error => namesFirstClash_of_error unique,
    fun merged h => ⟨fun path x y => joined_at unique h, ?_⟩⟩
  exact mergeFields_of_absorbs
    (absorbs_of_stable unique.1 (fun field hfield => stable_of_unique (unique.2 field hfield)) h)

/-- Attributes with objects in one another. -/
def withTimes (user system : Json) : Fields :=
  [("threads", .object [("12", .object [("user", user), ("system", system)])])]

/-- An attribute with two times repeats a name only if one of its parts does. -/
theorem unique_withTimes {user system : Json} (huser : user.Unique) (hsystem : system.Unique) :
    (withTimes user system).Unique := by
  have htimes : (Json.object [("user", user), ("system", system)]).Unique :=
    .object (by simp [Fields.names]) (by simp [huser, hsystem])
  have hthreads : (Json.object [("12", .object [("user", user), ("system", system)])]).Unique :=
    .object (by simp [Fields.names]) (by simp [htimes])
  exact ⟨by simp [Fields.names, withTimes], by simp [withTimes, hthreads]⟩

/-- A new name and a `null` go together with what is there; an array does not go together with a
string, wherever the two are. -/
theorem merge_by_paths_withTimes :
    Fields.Unique (("exit", .null) :: withTimes .null (.bool true)) ∧
    Fields.Unique (withTimes .null (.array [])) ∧
    JoinedThroughout (withTimes (.string "1") (.string "2"))
      (("exit", .null) :: withTimes .null (.bool true))
      (withTimes .null (.bool true) ++ [("exit", .null)]) ∧
    merge (withTimes .null (.bool true) ++ [("exit", .null)])
        (("exit", .null) :: withTimes .null (.bool true))
      = .done (withTimes .null (.bool true) ++ [("exit", .null)]) ∧
    NamesFirstClash (withTimes (.string "1") (.string "2")) (withTimes .null (.array []))
      (.inside "threads" (.inside "12" (.array "system"))) := by
  have hmerging : Fields.Unique (("exit", .null) :: withTimes .null (.bool true)) := by
    obtain ⟨names, values⟩ := unique_withTimes .null (.bool true)
    exact ⟨by decide, List.forall_mem_cons.2 ⟨.null, values⟩⟩
  have hclashing : (withTimes .null (.array [])).Unique := unique_withTimes .null (.array nofun)
  obtain ⟨hjoined, hagain⟩ :=
    (@merge_by_paths (withTimes (.string "1") (.string "2")) _ hmerging).2.2 _ rfl
  exact ⟨hmerging, hclashing, hjoined, hagain, (merge_by_paths hclashing).2.1 _ rfl⟩

end Attributes

end ProcessWatch

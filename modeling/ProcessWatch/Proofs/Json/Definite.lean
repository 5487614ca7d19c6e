import ProcessWatch.Proofs.Json.Doubles
import ProcessWatch.Proofs.Json.Fields

/-!
# Values that equal themselves

Objects are compared by their names, and doubles as floating point is. So a value equals itself if
no object in it repeats a name and no number in it is NaN, which no JSON value is.

* **`Json.Definite`** — no number in a value is NaN.
* **`Json.same_self`** — definite values without repeated names equal themselves.
* **`Number.toFloat_beq_self`** — a number that equals itself does so as a double.
-/

namespace ProcessWatch

/-- A value in which every number equals itself: none is NaN. -/
inductive Json.Definite : Json → Prop where
  | null : Definite .null
  | bool (value : Bool) : Definite (.bool value)
  | number {value : Number} (h : (value == value) = true) : Definite (.number value)
  | string (value : String) : Definite (.string value)
  | array {items : List Json} (items_definite : ∀ item ∈ items, Definite item) :
      Definite (.array items)
  | object {fields : List (String × Json)} (values : ∀ field ∈ fields, Definite field.2) :
      Definite (.object fields)

/-- No number in some fields is NaN. -/
def Fields.Definite (fields : Fields) : Prop := ∀ field ∈ fields, field.2.Definite

/-- Setting a field to a definite value keeps fields definite. -/
theorem Fields.Definite.set {fields : Fields} (h : fields.Definite) (key : String) {value : Json}
    (hvalue : value.Definite) : Fields.Definite (Fields.set key value fields) := by
  intro field hmem
  rcases Fields.mem_of_mem_set hmem with rfl | hbefore
  · exact hvalue
  · exact h field hbefore

/-- A number that equals itself is no NaN as a double either. -/
theorem Number.toFloat_beq_self {n : Number} (h : (n == n) = true) :
    (n.toFloat == n.toFloat) = true := by
  cases n with
  | int value => exact Double.beq_self_iff.2 (Double.exists_ofInt value)
  | float value => exact h

namespace Json

/-- Items that are the same as themselves make a row that is. -/
theorem sameItems_self {items : List Json} (h : ∀ item ∈ items, item.same item = true) :
    sameItems items items = true := by
  induction items with
  | nil => rfl
  | cons item rest ih =>
    obtain ⟨hitem, hrest⟩ := List.forall_mem_cons.1 h
    rw [sameItems, hitem, ih hrest]
    rfl

/-- Fields are found in an object that has them. -/
theorem sameFields_of_get? {fields others : Fields}
    (h : ∀ field ∈ fields, Fields.get? field.1 others = some field.2 ∧
      field.2.same field.2 = true) : sameFields fields others = true := by
  induction fields with
  | nil => rfl
  | cons field rest ih =>
    obtain ⟨key, value⟩ := field
    obtain ⟨⟨hget, hsame⟩, hrest⟩ := List.forall_mem_cons.1 h
    rw [sameFields, hget, ih hrest]
    dsimp only
    rw [hsame]
    rfl

/-- A definite value without repeated names is the same as itself. The induction is on the value
being without repeated names, because fields are compared by looking their names up. -/
theorem same_self {value : Json} (unique : value.Unique) (definite : value.Definite) :
    value.same value = true := by
  -- on how the value is built; objects are compared by name, so each field must find itself
  induction unique with
  | null => rfl
  | bool value => exact beq_self_eq_true value
  | number value =>
    cases definite with
    | number h => exact h
  | string value => exact beq_self_eq_true value
  | array _ ih =>
    cases definite with
    | array items_definite =>
      exact sameItems_self fun item hitem => ih item hitem (items_definite item hitem)
  | @object fields names _ ih =>
    cases definite with
    | object values =>
      have hfields : sameFields fields fields = true := sameFields_of_get? fun field hfield =>
        ⟨(Fields.get?_eq_some_iff_mem names).2 hfield, ih field hfield (values field hfield)⟩
      rw [same, hfields, beq_self_eq_true]
      rfl

end Json

end ProcessWatch

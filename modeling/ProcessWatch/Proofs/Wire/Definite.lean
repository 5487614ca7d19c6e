import ProcessWatch.Proofs.Json.Texts
import ProcessWatch.Proofs.Wire.Received

/-!
# Snapshots without NaN

No number of a JSON value is NaN, and none is after it was read as a double. So no snapshot of a
status that was read from a text has one.

* **`ProcessSnapshot.Timed`** — no time of a snapshot is NaN, that of the process or of a stat.
* **`ProcessSnapshot.Definite`** — no number of it is.
* **`ProcessSnapshot.Faithful.definite`** — what is read from a value without NaN has none.
* **`Entries.definite_ofStatus`** — nor have the snapshots of a status that was read from a text.
-/

namespace ProcessWatch

/-- A time that equals itself, if there is one. -/
def IsTime (time : Option Float) : Prop := ∀ x, time = some x → (x == x) = true

namespace Json

/-- A field of a definite value is definite. -/
theorem definite_of_field? {value v : Json} {key : String} (definite : value.Definite)
    (h : value.field? key = some v) : v.Definite := by
  cases value with
  | object fields =>
    cases definite with
    | object values => exact values (key, v) (Fields.mem_of_get? h)
  | null | bool _ | number _ | string _ | array _ => cases h

theorem definite_others {value : Json} (definite : value.Definite) (typed : List String) :
    (value.others typed).Definite := by
  cases value with
  | object fields =>
    cases definite with
    | object values => exact fun field hfield => values field (List.mem_filter.1 hfield).1
  | null | bool _ | number _ | string _ | array _ => exact nofun

/-- A number that is read as a double stays definite. -/
theorem Definite.asDouble {value : Json} (definite : value.Definite) : value.asDouble.Definite := by
  cases definite with
  | number h => exact .number (Number.toFloat_beq_self h)
  | null => exact .null
  | bool b => exact .bool b
  | string s => exact .string s
  | array items => exact .array items
  | object values => exact .object values

end Json

/-- A time that a value tells is no NaN. -/
theorem Reported.isTime {value : Json} {key : String} {r : Reported Float}
    (h : (value.field? key).map Json.asDouble = r.field? Json.float) (definite : value.Definite) :
    IsTime r.value? := by
  intro x hx
  obtain rfl : r = .value x := by
    cases r <;> cases hx
    rfl
  obtain ⟨v, hv, hdouble⟩ := Option.map_eq_some_iff.1 h
  have hx : (Json.float x).Definite := hdouble ▸ (Json.definite_of_field? definite hv).asDouble
  cases hx with
  | number hself => exact hself

namespace ProcessSnapshot

/-- No time of a snapshot is NaN. -/
structure Timed (s : ProcessSnapshot) : Prop where
  time : IsTime s.time.value?
  descriptors : ∀ name descriptors id d, s.openFiles.get? name = some descriptors →
    descriptors.get? id = some d → IsTime d.timeOfStat.value?

/-- No number of a snapshot is NaN. -/
structure Definite (s : ProcessSnapshot) : Prop extends s.Timed where
  fields : s.fields.Definite
  attributes : ∀ name descriptors id d, s.openFiles.get? name = some descriptors →
    descriptors.get? id = some d → d.fields.Definite

/-- A snapshot that says what a definite value says is definite. -/
theorem Faithful.definite {s : ProcessSnapshot} {value : Json} (h : s.Faithful value)
    (definite : value.Definite) : s.Definite := by
  -- a descriptor was read from a value inside the definite one
  have described {name id : String} {descriptors : SortedMap String DescriptorSnapshot}
      {d : DescriptorSnapshot} (hname : s.openFiles.get? name = some descriptors)
      (hid : descriptors.get? id = some d) : ∃ v : Json, v.Definite ∧ d.Faithful v := by
    obtain ⟨files, file, v, hfiles, hfile, hv, hd⟩ := h.descriptor hname hid
    have hfile_definite : file.Definite :=
      Json.definite_of_field? (Json.definite_of_field? definite hfiles) hfile
    exact ⟨v, Json.definite_of_field? hfile_definite hv, hd⟩
  refine ⟨⟨Reported.isTime h.time definite, ?_⟩, ?_, ?_⟩
  · intro name descriptors id d hname hid
    obtain ⟨v, hv, hd⟩ := described hname hid
    exact Reported.isTime hd.timeOfStat hv
  · rw [h.fields]
    exact Json.definite_others definite typedFields
  · intro name descriptors id d hname hid
    obtain ⟨v, hv, hd⟩ := described hname hid
    rw [hd.fields]
    exact Json.definite_others hv DescriptorSnapshot.typedFields

end ProcessSnapshot

/-! ## Whole statuses -/

namespace Entries

/-- A status that was read from a text has definite entries: no number in a text is NaN. -/
theorem definite_items_ofText {text : String} {status : Status}
    (h : Status.ofText text = .ok status) : ∀ entry ∈ status.items, entry.Definite := by
  obtain ⟨value, hvalue, hread⟩ := Status.of_ofText h
  have definite := Json.definite_collapse (Json.definite_of_scanText hvalue)
  rcases Status.of_ofJson hread with ⟨fields, hfields, hitems⟩ | ⟨items, harray, hitems⟩
  · rw [hfields] at definite
    cases definite with
    | object values =>
      rw [hitems]
      exact List.forall_mem_map.2 values
  · rw [harray] at definite
    cases definite with
    | array items_definite => exact hitems ▸ items_definite

/-- No number of a snapshot is NaN if the status was read from a text. -/
theorem definite_ofStatus {text : String} {status : Status} (h : Status.ofText text = .ok status) :
    ∀ s ∈ (ofStatus status).snapshots, s.Definite := by
  intro s hs
  obtain ⟨key, entry, hentry, hkeyed⟩ := of_mem_ofStatus hs
  obtain ⟨read, pid, hread, rfl⟩ := of_readEntry hkeyed
  have faithful := ProcessSnapshot.faithful_of_ofJson hread (unique_items_ofText h entry hentry)
  have definite : read.Definite := faithful.definite (definite_items_ofText h entry hentry)
  exact ⟨⟨definite.time, definite.descriptors⟩, definite.fields, definite.attributes⟩

end Entries

end ProcessWatch

import ProcessWatch.Proofs.Json.Fields
import ProcessWatch.Proofs.Order.SortedMap
import ProcessWatch.Wire.Identity
import ProcessWatch.Wire.Snapshot

/-!
# What reading finds in an object

Objects are read field by field, and a later field may overwrite what an earlier one left. Where no
name is repeated the order does not count: each part of what is read comes from the one field that
fills it, and all names without a place of their own are kept in their order.

* **`Fields.Fills`** — a part of a record is filled by one field and by no other;
  `Fills.of_readWith` for whole objects.
* **`DescriptorSnapshot.Faithful`**, **`ProcessSnapshot.Faithful`**, **`Identity.Faithful`** — what
  was read says what the object says: which fields are left out, which are `null`, and the values of
  all others. A time may be written as a whole number, and is read as a double.
* **`ProcessSnapshot.faithful_of_ofJson`**, **`Identity.faithful_of_ofJson`** — reading is faithful.
-/

namespace ProcessWatch

/-! ## Outcomes and optional values -/

section

variable {ε α β γ : Type}

/-- If two steps succeed, both of them did. -/
theorem of_bind_ok {x : Except ε α} {f : α → Except ε β} {b : β} (h : x.bind f = .ok b) :
    ∃ a, x = .ok a ∧ f a = .ok b := by
  cases x with
  | error e => cases h
  | ok a => exact ⟨a, rfl, h⟩

/-- The same where the second one cannot fail. -/
theorem of_map_ok {x : Except ε α} {f : α → β} {b : β} (h : x.map f = .ok b) :
    ∃ a, x = .ok a ∧ f a = b := by
  cases x with
  | error e => cases h
  | ok a => exact ⟨a, rfl, Except.ok.inj h⟩

variable {r : α → β → Prop} {a? : Option α} {b? : Option β}

theorem rel_imp {r' : α → β → Prop} (h : Option.Rel r a? b?)
    (imp : ∀ a b, a? = some a → b? = some b → r a b → r' a b) : Option.Rel r' a? b? := by
  cases h with
  | none => exact .none
  | some hr => exact .some (imp _ _ rfl rfl hr)

theorem of_rel_some {a : α} (h : Option.Rel r a? b?) (ha : a? = some a) :
    ∃ b, b? = some b ∧ r a b := by
  cases h with
  | none => cases ha
  | some hr =>
    cases ha
    exact ⟨_, rfl, hr⟩

/-- Two functions that agree on related values agree on the optional ones. -/
theorem map_eq_of_rel {f : α → γ} {g : β → γ} (h : Option.Rel r a? b?)
    (heq : ∀ a b, a? = some a → r a b → f a = g b) : a?.map f = b?.map g := by
  cases h with
  | none => rfl
  | some hr => exact congrArg some (heq _ _ rfl hr)

theorem rel_map {s : β → α → Prop} {f : α → β} (h : ∀ a, s (f a) a) (a? : Option α) :
    Option.Rel s (a?.map f) a? := by
  cases a? with
  | none => exact .none
  | some a => exact .some (h a)

end

/-! ## One field, one place

Fields are read one after the other into a record, and each is read by the part that it fills. Where
no name is repeated, it is enough to say for a single field what it does to each part: the lemmas
here lift this to all of them. -/

namespace Fields

variable {σ α : Type} {step : σ → String → Json → Except Mismatch σ} {key : String}
  {read : Json → Except Mismatch α} {part : σ → α}

/-- Reads fields in order, up to the first that does not fit. -/
def readWith (step : σ → String → Json → Except Mismatch σ) (s : σ) (fields : Fields) :
    Except Mismatch σ :=
  fields.foldlM (fun s field => step s field.1 field.2) s

theorem readWith_cons (s : σ) (key : String) (value : Json) (rest : Fields) :
    readWith step s ((key, value) :: rest) = (step s key value).bind (readWith step · rest) :=
  rfl

/-- The field named `key` fills a part of a record, and no other field touches it. -/
def Fills (step : σ → String → Json → Except Mismatch σ) (key : String)
    (read : Json → Except Mismatch α) (part : σ → α) : Prop :=
  ∀ s k v s', step s k v = .ok s' → if k = key then read v = .ok (part s') else part s' = part s

/-- Where no name is repeated, a part is what its field says; without that field it stays. -/
theorem Fills.of_readWith (h : Fills step key read part) {fields : Fields}
    (nodup : (names fields).Nodup) {s s' : σ} (hread : readWith step s fields = .ok s') :
    (get? key fields = none ∧ part s' = part s) ∨
      ∃ v, get? key fields = some v ∧ read v = .ok (part s') := by
  -- along the fields; behind the one with the name there is no other that touches the part
  induction fields generalizing s with
  | nil =>
    cases hread
    exact .inl ⟨rfl, rfl⟩
  | cons field rest ih =>
    obtain ⟨k, v⟩ := field
    have hnodup : k ∉ names rest ∧ (names rest).Nodup := List.nodup_cons.1 nodup
    obtain ⟨s₁, hstep, hrest⟩ := of_bind_ok hread
    have hpart := h s k v s₁ hstep
    by_cases hk : k = key
    · -- the fields that follow have other names
      subst hk
      have habsent : get? k rest = none := get?_eq_none_iff.2 hnodup.1
      rw [if_pos rfl] at hpart
      rcases ih hnodup.2 hrest with ⟨_, hstays⟩ | ⟨w, hw, _⟩
      · exact .inr ⟨v, by rw [get?, if_pos rfl], hstays ▸ hpart⟩
      · rw [habsent] at hw
        cases hw
    · rw [if_neg hk] at hpart
      rw [get?, if_neg hk, ← hpart]
      exact ih hnodup.2 hrest

/-- A field with a new name goes to the end. -/
theorem append_cons_eq_set {kept rest : Fields} {key : String} {value : Json}
    (nodup : (names (kept ++ (key, value) :: rest)).Nodup) :
    kept ++ (key, value) :: rest = set key value kept ++ rest := by
  have hnames : names (kept ++ (key, value) :: rest) = names kept ++ key :: names rest :=
    List.map_append
  rw [hnames] at nodup
  have hkey : key ∉ names kept :=
    fun hmem => (List.nodup_append.1 nodup).2.2 key hmem key List.mem_cons_self rfl
  rw [set_of_not_mem value hkey, List.append_assoc, List.singleton_append]

/-- The fields that fill no part are kept at the end, in their order. -/
theorem readWith_others {typed : List String} {others : σ → Fields}
    (h : ∀ s k v s', step s k v = .ok s' →
      others s' = if k ∈ typed then others s else set k v (others s))
    {fields : Fields} {s s' : σ} (nodup : (names (others s ++ fields)).Nodup)
    (hread : readWith step s fields = .ok s') : others s' = others s ++ without typed fields := by
  -- along the fields, where the invariant is that no name was kept that is still to come
  induction fields generalizing s with
  | nil =>
    cases hread
    exact (List.append_nil _).symm
  | cons field rest ih =>
    obtain ⟨k, v⟩ := field
    obtain ⟨s₁, hstep, hrest⟩ := of_bind_ok hread
    have hothers := h s k v s₁ hstep
    by_cases htyped : k ∈ typed
    · rw [if_pos htyped] at hothers
      have hsub : (others s₁ ++ rest).Sublist (others s ++ (k, v) :: rest) := by
        rw [hothers]
        exact (List.sublist_cons_self _ _).append_left _
      rw [without_cons_of_mem htyped, ← hothers]
      exact ih (nodup.sublist (hsub.map Prod.fst)) hrest
    · -- the field goes to the end of those that are kept, on both sides
      rw [if_neg htyped] at hothers
      have hwithout : (names (others s ++ (k, v) :: without typed rest)).Nodup := by
        refine nodup.sublist (List.Sublist.map Prod.fst ?_)
        exact (List.filter_sublist.cons_cons _).append_left _
      rw [append_cons_eq_set nodup, ← hothers] at nodup
      rw [without_cons_of_not_mem htyped, append_cons_eq_set hwithout, ← hothers]
      exact ih nodup hrest

end Fields

/-! ## Fields that are there -/

namespace Json

/-- The value of a field that is there and not `null`. -/
def given? (key : String) (value : Json) : Option Json := (value.field? key).filter (!·.isNull)

/-- The fields of an object that have none of some names. -/
def others (typed : List String) : Json → Fields
  | .object fields => Fields.without typed fields
  | _ => []

/-- The fields that are left repeat no name if the object did not. -/
theorem unique_others {value : Json} (unique : value.Unique) (typed : List String) :
    (value.others typed).Unique := by
  cases value with
  | object fields => exact (unique_object_iff.1 unique).without typed
  | null | bool _ | number _ | string _ | array _ => exact Fields.unique_nil

/-- A number as the double that is read from it, and any other value. -/
def asDouble : Json → Json
  | .number n => float n.toFloat
  | value => value

end Json

/-- The field that a report is about, if it is there. -/
def Reported.field? {α : Type} (write : α → Json) : Reported α → Option Json
  | .absent => none
  | .null => some .null
  | .value a => some (write a)

/-- What is read with `null` as nothing. -/
theorem Json.toOption_cases {α : Type} {read : Json → Except Mismatch α} {value : Json}
    {a? : Option α} (h : value.toOption read = .ok a?) :
    (value = .null ∧ a? = none) ∨
      (value.isNull = false ∧ ∃ a, read value = .ok a ∧ a? = some a) := by
  cases value with
  | null =>
    cases h
    exact .inl ⟨rfl, rfl⟩
  | bool _ | number _ | string _ | array _ | object _ =>
    obtain ⟨a, ha, rfl⟩ := of_map_ok h
    exact .inr ⟨rfl, a, ha, rfl⟩

namespace Fields.Fills

variable {σ α : Type} {step : σ → String → Json → Except Mismatch σ} {key : String}
  {read : Json → Except Mismatch α} {write : α → Json}

/-- Of a field that is read with `null` as nothing, only what is given counts. -/
theorem optional {part : σ → Option α} (h : Fills step key (Json.toOption read) part)
    (exactly : ∀ v a, read v = .ok a → v = write a) {fields : Fields}
    (nodup : (names fields).Nodup) {s s' : σ} (start : part s = none)
    (hread : readWith step s fields = .ok s') :
    (Json.object fields).given? key = (part s').map write := by
  have hfield : (Json.object fields).given? key = (get? key fields).filter (!·.isNull) := rfl
  rw [hfield]
  rcases h.of_readWith nodup hread with ⟨habsent, hstays⟩ | ⟨v, hv, hpart⟩
  · rw [habsent, hstays, start]
    rfl
  · rw [hv]
    rcases Json.toOption_cases hpart with ⟨rfl, hnone⟩ | ⟨hnull, a, ha, hsome⟩
    · rw [hnone]
      rfl
    · rw [hsome, Option.filter_some, hnull]
      exact congrArg some (exactly v a ha)

/-- A field that is read as a report is left out, `null` or a value, just as it is reported. -/
theorem reported {part : σ → Reported α} (h : Fills step key (Reported.ofJson read) part)
    (normal : Json → Json) (normal_null : normal .null = .null)
    (exactly : ∀ v a, read v = .ok a → normal v = write a) {fields : Fields}
    (nodup : (names fields).Nodup) {s s' : σ} (start : part s = .absent)
    (hread : readWith step s fields = .ok s') :
    ((Json.object fields).field? key).map normal = (part s').field? write := by
  have hfield : (Json.object fields).field? key = get? key fields := rfl
  rw [hfield]
  rcases h.of_readWith nodup hread with ⟨habsent, hstays⟩ | ⟨v, hv, hpart⟩
  · rw [habsent, hstays, start]
    rfl
  · obtain ⟨a?, ha?, hofOption⟩ := of_map_ok hpart
    rw [hv, ← hofOption]
    rcases Json.toOption_cases ha? with ⟨rfl, rfl⟩ | ⟨_, a, ha, rfl⟩
    · exact congrArg some normal_null
    · exact congrArg some (exactly v a ha)

end Fields.Fills

/-! ## Values that are read one for one -/

namespace Json

/-- A number that is read is written as the value that it was read from. -/
theorem eq_ofWord32 (value : Json) (n : UInt32) (h : value.toWord32 = .ok n) :
    value = ofWord32 n := by
  unfold toWord32 at h
  split at h
  next m =>
    split at h
    next hrange =>
      cases h
      have hm : (m.toNat.toUInt32.toNat : Int) = m := by
        rw [Nat.toUInt32, UInt32.toNat_ofNat_of_lt' (by omega)]
        omega
      rw [ofWord32, nat, hm]
    next => cases h
  next => cases h

theorem eq_ofWord64 (value : Json) (n : UInt64) (h : value.toWord64 = .ok n) :
    value = ofWord64 n := by
  unfold toWord64 at h
  split at h
  next m =>
    split at h
    next hrange =>
      cases h
      have hm : (m.toNat.toUInt64.toNat : Int) = m := by
        rw [Nat.toUInt64, UInt64.toNat_ofNat_of_lt' (by omega)]
        omega
      rw [ofWord64, nat, hm]
    next => cases h
  next => cases h

theorem eq_ofInteger64 (value : Json) (n : Int64) (h : value.toInteger64 = .ok n) :
    value = ofInteger64 n := by
  unfold toInteger64 at h
  split at h
  next m =>
    split at h
    next hrange =>
      cases h
      have hmax : Int64.maxValue.toInt < 2 ^ 63 := by decide
      rw [ofInteger64, Int64.toInt_ofInt_of_le hrange.1 (by omega)]
    next => cases h
  next => cases h

theorem eq_string (value : Json) (s : String) (h : value.toText = .ok s) : value = .string s := by
  cases value with
  | string t =>
    cases h
    rfl
  | null | bool _ | number _ | array _ | object _ => cases h

theorem eq_bool (value : Json) (b : Bool) (h : value.toBoolean = .ok b) : value = .bool b := by
  cases value with
  | bool c =>
    cases h
    rfl
  | null | string _ | number _ | array _ | object _ => cases h

/-- A double is read from every number, so only the double comes back. -/
theorem asDouble_eq_float (value : Json) (x : Float) (h : value.toDouble = .ok x) :
    value.asDouble = float x := by
  cases value with
  | number n =>
    cases h
    rfl
  | null | bool _ | string _ | array _ | object _ => cases h

end Json

/-! ## Descriptors -/

namespace DescriptorSnapshot

/-- The fields of a descriptor that have places of their own. -/
def typedFields : List String := ["type", "read_only", "flags", "pos", "size", "time_of_stat"]

/-- What reading one field of a descriptor does to each of its parts. -/
structure Reads (d : DescriptorSnapshot) (key : String) (value : Json) (d' : DescriptorSnapshot) :
    Prop where
  kind : if key = "type" then value.toOption Json.toText = .ok d'.kind else d'.kind = d.kind
  readOnly : if key = "read_only" then value.toOption Json.toBoolean = .ok d'.readOnly
    else d'.readOnly = d.readOnly
  flags : if key = "flags" then value.toOption Json.toInteger64 = .ok d'.flags
    else d'.flags = d.flags
  pos : if key = "pos" then Reported.ofJson Json.toInteger64 value = .ok d'.pos else d'.pos = d.pos
  size : if key = "size" then Reported.ofJson Json.toWord64 value = .ok d'.size
    else d'.size = d.size
  timeOfStat : if key = "time_of_stat" then Reported.ofJson Json.toDouble value = .ok d'.timeOfStat
    else d'.timeOfStat = d.timeOfStat
  fields : d'.fields = if key ∈ typedFields then d.fields else Fields.set key value d.fields

/-- Every field is read into its own part. -/
theorem reads_of_readField {d d' : DescriptorSnapshot} {key : String} {value : Json}
    (h : d.readField key value = .ok d') : d.Reads key value d' := by
  -- one case for each name with a place; in each of them the other parts stay by definition
  unfold readField at h
  split at h
  next =>
    cases hread : value.toOption Json.toText <;> rw [hread] at h <;> cases h
    constructor <;> simp [hread, typedFields]
  next =>
    cases hread : value.toOption Json.toBoolean <;> rw [hread] at h <;> cases h
    constructor <;> simp [hread, typedFields]
  next =>
    cases hread : value.toOption Json.toInteger64 <;> rw [hread] at h <;> cases h
    constructor <;> simp [hread, typedFields]
  next =>
    cases hread : Reported.ofJson Json.toInteger64 value <;> rw [hread] at h <;> cases h
    constructor <;> simp [hread, typedFields]
  next =>
    cases hread : Reported.ofJson Json.toWord64 value <;> rw [hread] at h <;> cases h
    constructor <;> simp [hread, typedFields]
  next =>
    cases hread : Reported.ofJson Json.toDouble value <;> rw [hread] at h <;> cases h
    constructor <;> simp [hread, typedFields]
  next hkind hreadOnly hflags hpos hsize htime =>
    cases h
    have hnames : key ≠ "type" ∧ key ≠ "read_only" ∧ key ≠ "flags" ∧ key ≠ "pos" ∧ key ≠ "size" ∧
        key ≠ "time_of_stat" := ⟨hkind, hreadOnly, hflags, hpos, hsize, htime⟩
    constructor <;> simp [hnames, typedFields]

/-- A field without a place is kept among the others. -/
theorem readField_other {key : String} (d : DescriptorSnapshot) (value : Json)
    (h : key ∉ typedFields) :
    d.readField key value = .ok { d with fields := Fields.set key value d.fields } := by
  simp only [typedFields, List.mem_cons, List.not_mem_nil, or_false, not_or] at h
  obtain ⟨hkind, hreadOnly, hflags, hpos, hsize, htime⟩ := h
  unfold readField
  split <;> first | contradiction | rfl

/-- Reading a descriptor reads its fields in order. -/
theorem readFields_eq_readWith (d : DescriptorSnapshot) (fields : Fields) :
    d.readFields fields = Fields.readWith readField d fields := by
  induction fields generalizing d with
  | nil => rfl
  | cons field rest ih =>
    obtain ⟨key, value⟩ := field
    rw [readFields, Fields.readWith_cons]
    cases d.readField key value with
    | error mismatch => rfl
    | ok d' => exact ih d'

/-- A descriptor that says what a value says. -/
structure Faithful (d : DescriptorSnapshot) (value : Json) : Prop where
  kind : value.given? "type" = d.kind.map Json.string
  readOnly : value.given? "read_only" = d.readOnly.map Json.bool
  flags : value.given? "flags" = d.flags.map Json.ofInteger64
  pos : value.field? "pos" = d.pos.field? Json.ofInteger64
  size : value.field? "size" = d.size.field? Json.ofWord64
  timeOfStat : (value.field? "time_of_stat").map Json.asDouble = d.timeOfStat.field? Json.float
  fields : d.fields = value.others typedFields

/-- A descriptor says what its object says. -/
theorem faithful_of_ofJson {value : Json} {d : DescriptorSnapshot} (h : ofJson value = .ok d)
    (unique : value.Unique) : d.Faithful value := by
  cases value with
  | object fields =>
    have nodup : (Fields.names fields).Nodup := (Json.unique_object_iff.1 unique).1
    have hread : Fields.readWith readField empty fields = .ok d :=
      (readFields_eq_readWith empty fields).symm.trans h
    have hnodup : (Fields.names (empty.fields ++ fields)).Nodup := nodup
    -- each part is what its own field says, by the shape of `Reads`
    have hpos := Fields.Fills.reported (fun _ _ _ _ hs => (reads_of_readField hs).pos) id rfl
      Json.eq_ofInteger64 nodup rfl hread
    have hsize := Fields.Fills.reported (fun _ _ _ _ hs => (reads_of_readField hs).size) id rfl
      Json.eq_ofWord64 nodup rfl hread
    rw [Option.map_id] at hpos hsize
    refine ⟨?_, ?_, ?_, hpos, hsize, ?_, ?_⟩
    · exact Fields.Fills.optional (fun _ _ _ _ hs => (reads_of_readField hs).kind)
        Json.eq_string nodup rfl hread
    · exact Fields.Fills.optional (fun _ _ _ _ hs => (reads_of_readField hs).readOnly)
        Json.eq_bool nodup rfl hread
    · exact Fields.Fills.optional (fun _ _ _ _ hs => (reads_of_readField hs).flags)
        Json.eq_ofInteger64 nodup rfl hread
    · exact Fields.Fills.reported (fun _ _ _ _ hs => (reads_of_readField hs).timeOfStat)
        Json.asDouble rfl Json.asDouble_eq_float nodup rfl hread
    · exact Fields.readWith_others (fun _ _ _ _ hs => (reads_of_readField hs).fields) hnodup hread
  | null | bool _ | number _ | string _ | array _ => cases h

end DescriptorSnapshot

/-! ## Maps -/

/-- A field of an object that repeats no name repeats none. -/
theorem Json.unique_of_field? {value v : Json} {key : String} (unique : value.Unique)
    (h : value.field? key = some v) : v.Unique := by
  cases value with
  | object fields => exact (Json.unique_object_iff.1 unique).2 (key, v) (Fields.mem_of_get? h)
  | null | bool _ | number _ | string _ | array _ => cases h

/-- A map that was read has a value for each field, and no other. -/
theorem Json.toMap_rel {α : Type} {read : Json → Except Mismatch α} {value : Json}
    {map : SortedMap String α} (h : value.toMap read = .ok map) (unique : value.Unique)
    (k : String) : Option.Rel (fun x v => read v = .ok x) (map.get? k) (value.field? k) := by
  cases value with
  | object fields =>
    have nodup : (Fields.names fields).Nodup := (Json.unique_object_iff.1 unique).1
    -- a map is read like a record that has one part for each key
    let step (map : SortedMap String α) (key : String) (v : Json) :
        Except Mismatch (SortedMap String α) := return map.insert key (← read v)
    have hread : Fields.readWith step .empty fields = .ok map := h
    have fills : Fields.Fills step k (fun v => (read v).map some) (·.get? k) := by
      intro map key v map' hstep
      obtain ⟨x, hx, hinsert⟩ := of_bind_ok hstep
      cases hinsert
      split
      next heq =>
        subst heq
        show (read v).map some = .ok ((map.insert key x).get? key)
        rw [hx, SortedMap.get?_insert_self]
        rfl
      next hne => exact SortedMap.get?_insert_of_ne map x (Ne.symm hne)
    have hfield : (Json.object fields).field? k = Fields.get? k fields := rfl
    rw [hfield]
    rcases fills.of_readWith nodup hread with ⟨habsent, hstays⟩ | ⟨v, hv, hpart⟩
    · rw [habsent, hstays]
      exact .none
    · obtain ⟨x, hx, hget⟩ := of_map_ok hpart
      rw [hv, ← hget]
      exact .some hx
  | null | bool _ | number _ | string _ | array _ => cases h

/-! ## Processes -/

namespace ProcessSnapshot

/-- The fields of a snapshot that have places of their own. -/
def typedFields : List String := ["pid", "parent_pid", "time", "open_files"]

/-- What reading one field of a process does to each of its parts. -/
structure Reads (s : ProcessSnapshot) (key : String) (value : Json) (s' : ProcessSnapshot) :
    Prop where
  pid : if key = "pid" then value.toOption Json.toWord32 = .ok s'.pid else s'.pid = s.pid
  parent : if key = "parent_pid" then Reported.ofJson Json.toWord32 value = .ok s'.parent
    else s'.parent = s.parent
  time : if key = "time" then Reported.ofJson Json.toDouble value = .ok s'.time
    else s'.time = s.time
  openFiles : if key = "open_files"
    then value.toMap (Json.toMap DescriptorSnapshot.ofJson) = .ok s'.openFiles
    else s'.openFiles = s.openFiles
  fields : s'.fields = if key ∈ typedFields then s.fields else Fields.set key value s.fields

/-- Every field of a process is read into its own part. -/
theorem reads_of_readField {s s' : ProcessSnapshot} {key : String} {value : Json}
    (h : s.readField key value = .ok s') : s.Reads key value s' := by
  -- one case for each name with a place; in each of them the other parts stay by definition
  unfold readField at h
  split at h
  next =>
    cases hread : value.toOption Json.toWord32 <;> rw [hread] at h <;> cases h
    constructor <;> simp [hread, typedFields]
  next =>
    cases hread : Reported.ofJson Json.toWord32 value <;> rw [hread] at h <;> cases h
    constructor <;> simp [hread, typedFields]
  next =>
    cases hread : Reported.ofJson Json.toDouble value <;> rw [hread] at h <;> cases h
    constructor <;> simp [hread, typedFields]
  next =>
    cases hread : value.toMap (Json.toMap DescriptorSnapshot.ofJson) <;> rw [hread] at h <;> cases h
    constructor <;> simp [hread, typedFields]
  next hpid hparent htime hfiles =>
    cases h
    have hnames : key ≠ "pid" ∧ key ≠ "parent_pid" ∧ key ≠ "time" ∧ key ≠ "open_files" :=
      ⟨hpid, hparent, htime, hfiles⟩
    constructor <;> simp [hnames, typedFields]

/-- A field without a place is kept among the others. -/
theorem readField_other {key : String} (s : ProcessSnapshot) (value : Json)
    (h : key ∉ typedFields) :
    s.readField key value = .ok { s with fields := Fields.set key value s.fields } := by
  simp only [typedFields, List.mem_cons, List.not_mem_nil, or_false, not_or] at h
  obtain ⟨hpid, hparent, htime, hfiles⟩ := h
  unfold readField
  split <;> first | contradiction | rfl

/-- Reading a process reads its fields in order. -/
theorem readFields_eq_readWith (s : ProcessSnapshot) (fields : Fields) :
    s.readFields fields = Fields.readWith readField s fields := by
  induction fields generalizing s with
  | nil => rfl
  | cons field rest ih =>
    obtain ⟨key, value⟩ := field
    rw [readFields, Fields.readWith_cons]
    cases s.readField key value with
    | error mismatch => rfl
    | ok s' => exact ih s'

/-- A snapshot that says what a value says. -/
structure Faithful (s : ProcessSnapshot) (value : Json) : Prop where
  pid : value.given? "pid" = s.pid.map Json.ofWord32
  parent : value.field? "parent_pid" = s.parent.field? Json.ofWord32
  time : (value.field? "time").map Json.asDouble = s.time.field? Json.float
  /-- The same files have the same descriptors, and these are faithful. -/
  openFiles : ∀ name, Option.Rel
    (fun descriptors file => ∀ id,
      Option.Rel DescriptorSnapshot.Faithful (descriptors.get? id) (file.field? id))
    (s.openFiles.get? name) ((value.field? "open_files").bind (Json.field? name))
  fields : s.fields = value.others typedFields

/-- Files that were read are those of the object. -/
theorem faithful_openFiles {value : Json} {files : OpenFiles}
    (h : value.toMap (Json.toMap DescriptorSnapshot.ofJson) = .ok files) (unique : value.Unique)
    (name : String) : Option.Rel
      (fun descriptors file => ∀ id,
        Option.Rel DescriptorSnapshot.Faithful (descriptors.get? id) (file.field? id))
      (files.get? name) (value.field? name) := by
  refine rel_imp (Json.toMap_rel h unique name) fun descriptors file _ hfile hread id => ?_
  have file_unique : file.Unique := Json.unique_of_field? unique hfile
  refine rel_imp (Json.toMap_rel hread file_unique id) fun d descriptor _ hdescriptor hd => ?_
  exact DescriptorSnapshot.faithful_of_ofJson hd (Json.unique_of_field? file_unique hdescriptor)

/-- A snapshot says what its object says. -/
theorem faithful_of_ofJson {value : Json} {s : ProcessSnapshot} (h : ofJson value = .ok s)
    (unique : value.Unique) : s.Faithful value := by
  cases value with
  | object fields =>
    have nodup : (Fields.names fields).Nodup := (Json.unique_object_iff.1 unique).1
    have hnodup : (Fields.names (empty.fields ++ fields)).Nodup := nodup
    have hread : Fields.readWith readField empty fields = .ok s :=
      (readFields_eq_readWith empty fields).symm.trans h
    -- each part is what its own field says, by the shape of `Reads`
    have hparent := Fields.Fills.reported (fun _ _ _ _ hs => (reads_of_readField hs).parent) id rfl
      Json.eq_ofWord32 nodup rfl hread
    rw [Option.map_id] at hparent
    refine ⟨?_, hparent, ?_, ?_, ?_⟩
    · exact Fields.Fills.optional (fun _ _ _ _ hs => (reads_of_readField hs).pid)
        Json.eq_ofWord32 nodup rfl hread
    · exact Fields.Fills.reported (fun _ _ _ _ hs => (reads_of_readField hs).time)
        Json.asDouble rfl Json.asDouble_eq_float nodup rfl hread
    · intro name
      -- the files are a map of maps, compared file by file
      have hfiles : Fields.Fills readField "open_files"
          (Json.toMap (Json.toMap DescriptorSnapshot.ofJson)) openFiles :=
        fun _ _ _ _ hs => (reads_of_readField hs).openFiles
      have hfield : (Json.object fields).field? "open_files" = Fields.get? "open_files" fields :=
        rfl
      rcases hfiles.of_readWith nodup hread with ⟨habsent, hstays⟩ | ⟨v, hv, hmap⟩
      · rw [hfield, habsent, hstays]
        exact .none
      · rw [hfield, hv]
        exact faithful_openFiles hmap (Json.unique_of_field? unique (hfield.trans hv)) name
    · exact Fields.readWith_others (fun _ _ _ _ hs => (reads_of_readField hs).fields) hnodup hread
  | null | bool _ | number _ | string _ | array _ => cases h

/-- Every descriptor says what a value within the open files says. -/
theorem Faithful.descriptor {s : ProcessSnapshot} {value : Json} (h : s.Faithful value)
    {name id : String} {descriptors : SortedMap String DescriptorSnapshot} {d : DescriptorSnapshot}
    (hname : s.openFiles.get? name = some descriptors) (hid : descriptors.get? id = some d) :
    ∃ files file v, value.field? "open_files" = some files ∧ files.field? name = some file ∧
      file.field? id = some v ∧ d.Faithful v := by
  obtain ⟨file, hgiven, hdescriptors⟩ := of_rel_some (h.openFiles name) hname
  obtain ⟨files, hfiles, hfile⟩ := Option.bind_eq_some_iff.1 hgiven
  obtain ⟨v, hv, hd⟩ := of_rel_some (hdescriptors id) hid
  exact ⟨files, file, v, hfiles, hfile, hv, hd⟩

end ProcessSnapshot

/-! ## Identities -/

namespace Identity

/-- The fields of an identity that have places of their own. -/
def typedFields : List String := ["pid", "parent_pid", "cmdline", "working_directory"]

namespace Draft

/-- What reading one field of an identity does to each of its parts. -/
structure Reads (draft : Draft) (key : String) (value : Json) (draft' : Draft) : Prop where
  pid : if key = "pid" then value.toWord32.map some = .ok draft'.pid else draft'.pid = draft.pid
  parent : if key = "parent_pid" then value.toOption Json.toWord32 = .ok draft'.parent.join
    else draft'.parent.join = draft.parent.join
  cmdline : if key = "cmdline" then value.toOption .ok = .ok draft'.cmdline.join
    else draft'.cmdline.join = draft.cmdline.join
  workingDirectory : if key = "working_directory"
    then value.toOption Json.toText = .ok draft'.workingDirectory.join
    else draft'.workingDirectory.join = draft.workingDirectory.join
  fields : draft'.fields
    = if key ∈ typedFields then draft.fields else Fields.set key value draft.fields

/-- Every field of an identity is read into its own part of the draft. -/
theorem reads_of_read {draft draft' : Draft} {key : String} {value : Json}
    (h : draft.read key value = .ok draft') : draft.Reads key value draft' := by
  -- one case for each name with a place; in each of them the other parts stay by definition
  unfold read at h
  cases hnew : draft.requireNew key with
  | error mismatch =>
    rw [hnew] at h
    cases h
  | ok _ =>
    rw [hnew] at h
    dsimp only [bind, Except.bind] at h
    split at h
    next =>
      cases hread : value.toWord32 <;> rw [hread] at h <;> cases h
      constructor <;> simp [hread, typedFields, Except.map]
    next =>
      cases hread : value.toOption Json.toWord32 <;> rw [hread] at h <;> cases h
      constructor <;> simp [hread, typedFields]
    next =>
      cases hread : value.toOption .ok <;> rw [hread] at h <;> cases h
      constructor <;> simp [hread, typedFields]
    next =>
      cases hread : value.toOption Json.toText <;> rw [hread] at h <;> cases h
      constructor <;> simp [hread, typedFields]
    next hpid hparent hcmdline hdirectory =>
      cases h
      have hnames : key ≠ "pid" ∧ key ≠ "parent_pid" ∧ key ≠ "cmdline" ∧
          key ≠ "working_directory" := ⟨hpid, hparent, hcmdline, hdirectory⟩
      constructor <;> simp [hnames, typedFields]

/-- A field without a place is kept among the others. -/
theorem read_other {key : String} (draft : Draft) (value : Json) (h : key ∉ typedFields) :
    draft.read key value = .ok { draft with fields := Fields.set key value draft.fields } := by
  simp only [typedFields, List.mem_cons, List.not_mem_nil, or_false, not_or] at h
  obtain ⟨hpid, hparent, hcmdline, hdirectory⟩ := h
  have hnew : draft.requireNew key = .ok () := by
    unfold requireNew hasTyped
    split <;> first | contradiction | rfl
  unfold read
  rw [hnew]
  dsimp only [bind, Except.bind]
  split <;> first | contradiction | rfl

/-- Reading an identity reads its fields in order. -/
theorem readAll_eq_readWith (draft : Draft) (fields : Fields) :
    draft.readAll fields = Fields.readWith read draft fields := by
  induction fields generalizing draft with
  | nil => rfl
  | cons field rest ih =>
    obtain ⟨key, value⟩ := field
    rw [readAll, Fields.readWith_cons]
    cases draft.read key value with
    | error mismatch => rfl
    | ok draft' => exact ih draft'

end Draft

/-- An identity is a draft that is complete at the end. -/
theorem ofJson_object (fields : Fields) :
    ofJson (.object fields)
      = (Fields.readWith Draft.read Draft.empty fields).bind Draft.complete := by
  rw [← Draft.readAll_eq_readWith]
  rfl

/-- An identity that says what a value says. -/
structure Faithful (identity : Identity) (value : Json) : Prop where
  pid : value.field? "pid" = some (Json.ofWord32 identity.pid)
  parent : value.given? "parent_pid" = identity.parent.map Json.ofWord32
  cmdline : value.given? "cmdline" = identity.cmdline
  workingDirectory : value.given? "working_directory" = identity.workingDirectory.map Json.string
  fields : identity.fields = value.others typedFields

/-- An identity says what its object says. -/
theorem faithful_of_ofJson {value : Json} {identity : Identity} (h : ofJson value = .ok identity)
    (unique : value.Unique) : identity.Faithful value := by
  cases value with
  | object fields =>
    have nodup : (Fields.names fields).Nodup := (Json.unique_object_iff.1 unique).1
    have hnodup : (Fields.names (Draft.empty.fields ++ fields)).Nodup := nodup
    rw [ofJson_object] at h
    obtain ⟨draft, hread, hcomplete⟩ := of_bind_ok h
    -- each part of the draft is what its own field says
    have hparent := Fields.Fills.optional (fun _ _ _ _ hs => (Draft.reads_of_read hs).parent)
      Json.eq_ofWord32 nodup rfl hread
    have hcmdline := Fields.Fills.optional (fun _ _ _ _ hs => (Draft.reads_of_read hs).cmdline)
      (fun v a ha => show v = id a from Except.ok.inj ha) nodup rfl hread
    have hdirectory := Fields.Fills.optional
      (fun _ _ _ _ hs => (Draft.reads_of_read hs).workingDirectory) Json.eq_string nodup rfl hread
    have hothers := Fields.readWith_others (fun _ _ _ _ hs => (Draft.reads_of_read hs).fields)
      hnodup hread
    have hpid : Fields.Fills Draft.read "pid" (fun v => v.toWord32.map some) Draft.pid :=
      fun _ _ _ _ hs => (Draft.reads_of_read hs).pid
    -- a draft without a pid is not complete
    unfold Draft.complete at hcomplete
    split at hcomplete
    next => cases hcomplete
    next pid hdraft =>
      cases hcomplete
      rw [Option.map_id] at hcmdline
      refine ⟨?_, hparent, hcmdline, hdirectory, hothers⟩
      rcases hpid.of_readWith nodup hread with ⟨_, hstays⟩ | ⟨v, hv, hpart⟩
      · rw [hdraft] at hstays
        cases hstays
      · rw [hdraft] at hpart
        obtain ⟨n, hword, hn⟩ := of_map_ok hpart
        cases hn
        rw [← Json.eq_ofWord32 v _ hword]
        exact hv
  | null | bool _ | number _ | string _ | array _ => cases h

end Identity

end ProcessWatch

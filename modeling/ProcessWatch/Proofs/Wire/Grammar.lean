import Mathlib.Data.List.Induction
import Mathlib.Data.Nat.Digits.Defs
import ProcessWatch.Proofs.Wire.Received
import ProcessWatch.Proofs.Wire.RoundTrip

/-!
# The grammar of an entry

What an entry of a status may look like, written down as a table of the fields that have places of
their own and of what each may hold. An entry is read exactly if it has this shape and a pid is
known for it; all others are rejected, and no order is lost on either side.

## The architecture

* **`Json.Shape`**, **`Json.hasShape`** — the fields of an object that have places, and what may
  stand in them.
* **`Fields.isOk_readWith`**, **`hasShape_object`** — reading checks each field by itself; where no
  name is repeated, that is the shape of the object.
* **`DescriptorSnapshot.shape`**, **`ProcessSnapshot.shape`** — the grammars, with `isOk_ofJson` for
  each.
* **`Pid.Writes`**, **`Pid.parse?_eq_some_iff`** — the texts of a pid.
* **`Entries.Names`** — the pid that an entry is known by, read or not.
* **`Entries.sorted_ofStatus`** — which entries are read, and which are rejected.
-/

namespace ProcessWatch

/-! ## What may stand in a place

The shape of an entry is stated on its own, without the reader: for each name with a place, which
values may stand there. `null` may stand for what is optional, and any other name may have any
value. -/

namespace Json

def isWord32 : Json → Bool
  | .number (.int n) => 0 ≤ n && n < 2 ^ 32
  | _ => false

def isWord64 : Json → Bool
  | .number (.int n) => 0 ≤ n && n < 2 ^ 64
  | _ => false

def isInteger64 : Json → Bool
  | .number (.int n) => -2 ^ 63 ≤ n && n < 2 ^ 63
  | _ => false

def isNumber : Json → Bool
  | .number _ => true
  | _ => false

def isBool : Json → Bool
  | .bool _ => true
  | _ => false

def isString : Json → Bool
  | .string _ => true
  | _ => false

/-- `null`, or what is allowed otherwise. -/
def nullOr (allowed : Json → Bool) : Json → Bool
  | .null => true
  | value => allowed value

/-- An object with allowed values, whatever the names are. -/
def isObjectOf (allowed : Json → Bool) : Json → Bool
  | .object fields => fields.all fun field => allowed field.2
  | _ => false

/-- The fields of an object that have places of their own, and what is allowed in them. -/
abbrev Shape := List (String × (Json → Bool))

/-- Whether a field may have a value. A field without a place may have any. -/
def Shape.allows (shape : Shape) (key : String) (value : Json) : Bool :=
  shape.all fun place => place.1 != key || place.2 value

/-- An object of which each place of a shape is left out or holds what is allowed in it. -/
def hasShape (shape : Shape) (value : Json) : Bool :=
  value.isObject && shape.all fun place => (value.field? place.1).all place.2

end Json

/-- The grammar of a descriptor. -/
def DescriptorSnapshot.shape : Json.Shape :=
  [("type", Json.nullOr Json.isString), ("read_only", Json.nullOr Json.isBool),
    ("flags", Json.nullOr Json.isInteger64), ("pos", Json.nullOr Json.isInteger64),
    ("size", Json.nullOr Json.isWord64), ("time_of_stat", Json.nullOr Json.isNumber)]

/-- The grammar of a process. -/
def ProcessSnapshot.shape : Json.Shape :=
  [("pid", Json.nullOr Json.isWord32), ("parent_pid", Json.nullOr Json.isWord32),
    ("time", Json.nullOr Json.isNumber),
    ("open_files", Json.isObjectOf (Json.isObjectOf (Json.hasShape DescriptorSnapshot.shape)))]

/-! ## Reading accepts what is allowed -/

section

variable {ε α β : Type}

theorem isOk_map (x : Except ε α) (f : α → β) : (x.map f).isOk = x.isOk := by
  cases x <;> rfl

theorem isOk_bind_pure (x : Except ε α) (f : α → β) :
    (x >>= fun a => pure (f a)).isOk = x.isOk := by
  cases x <;> rfl

theorem isOk_ite (c : Prop) [Decidable c] (a : α) (e : ε) :
    (if c then .ok a else .error e : Except ε α).isOk = decide c := by
  by_cases h : c <;> simp [h, Except.isOk, Except.toBool]

end

namespace Json

/-- An unsigned number of 32 bits is read from such a number alone. -/
theorem isOk_toWord32 (value : Json) : value.toWord32.isOk = value.isWord32 := by
  cases value with
  | number n =>
    cases n with
    | int n => exact (isOk_ite _ _ _).trans (Bool.decide_and _ _)
    | float _ => rfl
  | null | bool _ | string _ | array _ | object _ => rfl

theorem isOk_toWord64 (value : Json) : value.toWord64.isOk = value.isWord64 := by
  cases value with
  | number n =>
    cases n with
    | int n => exact (isOk_ite _ _ _).trans (Bool.decide_and _ _)
    | float _ => rfl
  | null | bool _ | string _ | array _ | object _ => rfl

theorem isOk_toInteger64 (value : Json) : value.toInteger64.isOk = value.isInteger64 := by
  cases value with
  | number n =>
    cases n with
    | int n =>
      have hmax : Int64.maxValue.toInt = 2 ^ 63 - 1 := by decide
      have hrange : (Int64.minValue.toInt ≤ n ∧ n ≤ Int64.maxValue.toInt) ↔
          (-2 ^ 63 ≤ n ∧ n < 2 ^ 63) := by
        rw [hmax, Int.le_sub_one_iff]
        exact Iff.rfl
      exact ((isOk_ite _ _ _).trans (decide_eq_decide.2 hrange)).trans (Bool.decide_and _ _)
    | float _ => rfl
  | null | bool _ | string _ | array _ | object _ => rfl

theorem isOk_toDouble (value : Json) : value.toDouble.isOk = value.isNumber := by
  cases value <;> rfl

theorem isOk_toBoolean (value : Json) : value.toBoolean.isOk = value.isBool := by
  cases value <;> rfl

theorem isOk_toText (value : Json) : value.toText.isOk = value.isString := by
  cases value <;> rfl

variable {α : Type} {read : Json → Except Mismatch α} {allowed : Json → Bool}

/-- An optional value may be `null` as well. -/
theorem isOk_toOption (h : ∀ v, (read v).isOk = allowed v) (value : Json) :
    (value.toOption read).isOk = nullOr allowed value := by
  cases value with
  | null => rfl
  | bool _ | number _ | string _ | array _ | object _ => exact (isOk_map _ _).trans (h _)

theorem isOk_reported (h : ∀ v, (read v).isOk = allowed v) (value : Json) :
    (Reported.ofJson read value).isOk = nullOr allowed value :=
  (isOk_map _ _).trans (isOk_toOption h value)

end Json

namespace Fields

variable {σ : Type} {step : σ → String → Json → Except Mismatch σ}

/-- If the reading of each field does not depend on the others, all are read exactly if each is. -/
theorem isOk_readWith (allowed : String → Json → Bool) {fields : Fields}
    (h : ∀ field ∈ fields, ∀ s, (step s field.1 field.2).isOk = allowed field.1 field.2) (s : σ) :
    (readWith step s fields).isOk = fields.all fun field => allowed field.1 field.2 := by
  induction fields generalizing s with
  | nil => rfl
  | cons field rest ih =>
    obtain ⟨key, value⟩ := field
    rw [readWith_cons, List.all_cons, ← h (key, value) List.mem_cons_self s]
    cases step s key value with
    | error mismatch => rfl
    | ok s' => exact ih (fun field hfield => h field (List.mem_cons_of_mem _ hfield)) s'

end Fields

namespace Json

/-- A map is read exactly if all its values are. -/
theorem isOk_toMap {α : Type} {read : Json → Except Mismatch α} {allowed : Json → Bool}
    (h : ∀ v : Json, v.Unique → (read v).isOk = allowed v) {value : Json} (unique : value.Unique) :
    (value.toMap read).isOk = value.isObjectOf allowed := by
  cases value with
  | object fields =>
    let step (map : SortedMap String α) (key : String) (v : Json) :
        Except Mismatch (SortedMap String α) := return map.insert key (← read v)
    have hstep : ∀ field ∈ fields, ∀ map, (step map field.1 field.2).isOk = allowed field.2 :=
      fun field hfield map => (isOk_bind_pure _ _).trans
        (h field.2 ((unique_object_iff.1 unique).2 field hfield))
    exact Fields.isOk_readWith (fun _ => allowed) hstep SortedMap.empty
  | null | bool _ | number _ | string _ | array _ => rfl

/-- Where no name is repeated, an object has a shape exactly if the shape allows each field. -/
theorem hasShape_object {fields : Fields} (nodup : (Fields.names fields).Nodup) (shape : Shape) :
    (object fields).hasShape shape = fields.all fun field => shape.allows field.1 field.2 := by
  rw [Bool.eq_iff_iff, hasShape, isObject, Bool.true_and]
  simp only [List.all_eq_true, Shape.allows, Bool.or_eq_true, bne_iff_ne]
  constructor
  · intro h field hfield place hplace
    by_cases hkey : place.1 = field.1
    · -- the field is the only one of its name, so it is the one that the shape looks at
      have hvalue : (object fields).field? place.1 = some field.2 :=
        (Fields.get?_eq_some_iff_mem nodup).2 (hkey ▸ hfield)
      have hallowed := h place hplace
      rw [hvalue] at hallowed
      exact .inr hallowed
    · exact .inl hkey
  · intro h place hplace
    cases hvalue : (object fields).field? place.1 with
    | none => rfl
    | some value =>
      have hfield : (place.1, value) ∈ fields := Fields.mem_of_get? hvalue
      exact (h (place.1, value) hfield place hplace).resolve_left fun hne => hne rfl

/-- A field that fills a place is read exactly if the place allows it. -/
theorem isOk_place {α σ : Type} {shape : Shape} {key : String} {value : Json}
    {x : Except Mismatch α} {allowed : Json → Bool} (hread : x.isOk = allowed value) (f : α → σ)
    (hplace : shape.allows key value = allowed value) :
    (x >>= fun a => pure (f a)).isOk = shape.allows key value :=
  (isOk_bind_pure x f).trans (hread.trans hplace.symm)

end Json

namespace DescriptorSnapshot

/-- A field of a descriptor goes through if the shape of descriptors allows it, whatever was read
before. -/
theorem isOk_readField (d : DescriptorSnapshot) (key : String) (value : Json) :
    (d.readField key value).isOk = shape.allows key value := by
  unfold readField
  split
  next =>
    refine Json.isOk_place (Json.isOk_toOption Json.isOk_toText value) _ ?_
    simp [shape, Json.Shape.allows]
  next =>
    refine Json.isOk_place (Json.isOk_toOption Json.isOk_toBoolean value) _ ?_
    simp [shape, Json.Shape.allows]
  next =>
    refine Json.isOk_place (Json.isOk_toOption Json.isOk_toInteger64 value) _ ?_
    simp [shape, Json.Shape.allows]
  next =>
    refine Json.isOk_place (Json.isOk_reported Json.isOk_toInteger64 value) _ ?_
    simp [shape, Json.Shape.allows]
  next =>
    refine Json.isOk_place (Json.isOk_reported Json.isOk_toWord64 value) _ ?_
    simp [shape, Json.Shape.allows]
  next =>
    refine Json.isOk_place (Json.isOk_reported Json.isOk_toDouble value) _ ?_
    simp [shape, Json.Shape.allows]
  next hkind hreadOnly hflags hpos hsize htime =>
    -- a field without a place is kept whatever it is
    have hallowed : shape.allows key value = true := by
      simp [shape, Json.Shape.allows, Ne.symm hkind, Ne.symm hreadOnly, Ne.symm hflags,
        Ne.symm hpos, Ne.symm hsize, Ne.symm htime]
    rw [hallowed]
    rfl

/-- A descriptor is read exactly if it has the shape of one. -/
theorem isOk_ofJson {value : Json} (unique : value.Unique) :
    (ofJson value).isOk = value.hasShape shape := by
  cases value with
  | object fields =>
    rw [Json.hasShape_object (Json.unique_object_iff.1 unique).1]
    exact (congrArg Except.isOk (readFields_eq_readWith empty fields)).trans
      (Fields.isOk_readWith shape.allows (fun field _ d => isOk_readField d field.1 field.2) empty)
  | null | bool _ | number _ | string _ | array _ => rfl

end DescriptorSnapshot

namespace ProcessSnapshot

/-- The same for a field of a process. -/
theorem isOk_readField (s : ProcessSnapshot) (key : String) {value : Json}
    (unique : value.Unique) : (s.readField key value).isOk = shape.allows key value := by
  unfold readField
  split
  next =>
    refine Json.isOk_place (Json.isOk_toOption Json.isOk_toWord32 value) _ ?_
    simp [shape, Json.Shape.allows]
  next =>
    refine Json.isOk_place (Json.isOk_reported Json.isOk_toWord32 value) _ ?_
    simp [shape, Json.Shape.allows]
  next =>
    refine Json.isOk_place (Json.isOk_reported Json.isOk_toDouble value) _ ?_
    simp [shape, Json.Shape.allows]
  next =>
    -- files of descriptors, so the map of maps goes down to `DescriptorSnapshot.isOk_ofJson`
    have hfiles := Json.isOk_toMap
      (fun _ hfile => Json.isOk_toMap (fun _ => DescriptorSnapshot.isOk_ofJson) hfile) unique
    refine Json.isOk_place hfiles _ ?_
    simp [shape, Json.Shape.allows]
  next hpid hparent htime hfiles =>
    have hallowed : shape.allows key value = true := by
      simp [shape, Json.Shape.allows, Ne.symm hpid, Ne.symm hparent, Ne.symm htime,
        Ne.symm hfiles]
    rw [hallowed]
    rfl

/-- A process is read exactly if it has the shape of one. -/
theorem isOk_ofJson {value : Json} (unique : value.Unique) :
    (ofJson value).isOk = value.hasShape shape := by
  cases value with
  | object fields =>
    obtain ⟨nodup, hvalues⟩ := Json.unique_object_iff.1 unique
    rw [Json.hasShape_object nodup]
    exact (congrArg Except.isOk (readFields_eq_readWith empty fields)).trans
      (Fields.isOk_readWith shape.allows
        (fun field hfield s => isOk_readField s field.1 (hvalues field hfield)) empty)
  | null | bool _ | number _ | string _ | array _ => rfl

end ProcessSnapshot

/-! ## The pid of an entry

A pid is in the entry itself or in the key it stands under. A key may have leading zeros and a plus
sign, so its texts are told by the number that the digits write. -/

namespace Pid

/-- The number that ASCII digits write. -/
def decimal (digits : List Char) : Nat :=
  Nat.ofDigits 10 (digits.reverse.map fun c => c.toNat - '0'.toNat)

/-- The texts of a pid: one digit or more, leading zeros allowed, and perhaps a plus sign before. -/
def Writes (text : String) (pid : Pid) : Prop :=
  ∃ digits : List Char, digits ≠ [] ∧ (∀ c ∈ digits, c.isDigit) ∧
    (text.toList = digits ∨ text.toList = '+' :: digits) ∧ decimal digits = pid.toNat

/-- One more digit at the end multiplies by ten. -/
theorem decimal_concat (digits : List Char) (c : Char) :
    decimal (digits ++ [c]) = decimal digits * 10 + (c.toNat - '0'.toNat) := by
  unfold decimal
  rw [List.reverse_concat, List.map_cons, Nat.ofDigits_cons]
  omega

/-- Folding from the first digit on gives the number that the digits stand for. -/
theorem foldl_eq_decimal (digits : List Char) :
    digits.foldl (fun n c => n * 10 + (c.toNat - '0'.toNat)) 0 = decimal digits := by
  induction digits using List.reverseRecOn with
  | nil => rfl
  | append_singleton digits c ih =>
    rw [List.foldl_append, ih, decimal_concat]
    rfl

/-- The characters of a text after a plus sign, if there is one. -/
def unsigned (text : String) : List Char :=
  match text.toList with
  | '+' :: rest => rest
  | chars => chars

/-- At most one sign is taken off a text. -/
theorem unsigned_cases (text : String) :
    text.toList = unsigned text ∨ text.toList = '+' :: unsigned text := by
  unfold unsigned
  split
  next rest h => exact .inr h
  next => exact .inl rfl

/-- What is left are the digits, if there is nothing else. -/
theorem unsigned_eq {text : String} {digits : List Char} (hdigits : ∀ c ∈ digits, c.isDigit)
    (h : text.toList = digits ∨ text.toList = '+' :: digits) : unsigned text = digits := by
  unfold unsigned
  rcases h with h | h
  · rw [h]
    split
    next rest =>
      -- a plus sign is no digit
      exact absurd (hdigits '+' List.mem_cons_self) (by decide)
    next => rfl
  · rw [h]
    rfl

/-- What is read as a pid is what writes one. -/
theorem parse?_eq_some_iff {text : String} {pid : Pid} :
    parse? text = some pid ↔ Writes text pid := by
  -- the parser as a condition on the characters behind the sign
  have hparse : parse? text =
      if (unsigned text).isEmpty || !(unsigned text).all Char.isDigit then none
      else if decimal (unsigned text) < UInt32.size
        then some (decimal (unsigned text)).toUInt32 else none := by
    rw [← foldl_eq_decimal]
    rfl
  have hallowed : ((unsigned text).isEmpty || !(unsigned text).all Char.isDigit) = false ↔
      unsigned text ≠ [] ∧ ∀ c ∈ unsigned text, c.isDigit := by
    rw [Bool.or_eq_false_iff, List.isEmpty_eq_false_iff, Bool.not_eq_false', List.all_eq_true]
  rw [hparse]
  constructor
  · intro h
    split at h
    next => cases h
    next hdigits =>
      obtain ⟨hne, hall⟩ := hallowed.1 (Bool.eq_false_iff.2 hdigits)
      split at h
      next hsize =>
        cases h
        exact ⟨unsigned text, hne, hall, unsigned_cases text,
          (UInt32.toNat_ofNat_of_lt' hsize).symm⟩
      next => cases h
  · rintro ⟨digits, hne, hall, htext, hdecimal⟩
    obtain rfl := unsigned_eq hall htext
    rw [if_neg (Bool.eq_false_iff.1 (hallowed.2 ⟨hne, hall⟩)), hdecimal, if_pos pid.toNat_lt_size]
    exact congrArg some UInt32.ofNat_toNat

end Pid

theorem Json.field?_of_given? {key : String} {entry value : Json}
    (h : entry.given? key = some value) : entry.field? key = some value :=
  (Option.filter_eq_some_iff.1 h).1

namespace Entries

variable {key : Option String} {entry : Json} {pid : Pid}

/-- The pid that an entry is known by, read or not: that of its field, else that of its key. -/
inductive Names (key : Option String) (entry : Json) : Option Pid → Prop
  | field {pid : Pid} (hfield : entry.field? "pid" = some (.ofWord32 pid)) :
      Names key entry (some pid)
  | key {text : String} {pid : Pid} (hfield : ∀ pid, entry.field? "pid" ≠ some (.ofWord32 pid))
      (hkey : key = some text) (hpid : Pid.Writes text pid) : Names key entry (some pid)
  | unknown (hfield : ∀ pid, entry.field? "pid" ≠ some (.ofWord32 pid))
      (hkey : ∀ text pid, key = some text → ¬ Pid.Writes text pid) : Names key entry none

/-- What makes an entry readable: it has the shape of a process, and its field or its key tells a
pid. -/
structure Readable (key : Option String) (entry : Json) : Prop where
  shape : entry.hasShape ProcessSnapshot.shape = true
  pid : (entry.given? "pid").isSome = true ∨ ∃ text pid, key = some text ∧ Pid.Writes text pid

/-- A key stands for a pid exactly if it writes that pid. -/
theorem bind_parse?_eq_some_iff :
    key.bind Pid.parse? = some pid ↔ ∃ text, key = some text ∧ Pid.Writes text pid := by
  simp only [Option.bind_eq_some_iff, Pid.parse?_eq_some_iff]

/-- An entry is readable exactly if it has the shape of a process and a pid, by itself or by its
key. -/
theorem readable_iff : Readable key entry ↔ entry.hasShape ProcessSnapshot.shape = true ∧
    ((entry.given? "pid").isSome = true ∨ (key.bind Pid.parse?).isSome = true) := by
  have hkey : (key.bind Pid.parse?).isSome = true ↔
      ∃ text pid, key = some text ∧ Pid.Writes text pid := by
    simp only [Option.isSome_iff_exists, bind_parse?_eq_some_iff]
    exact exists_comm
  rw [hkey]
  exact ⟨fun h => ⟨h.shape, h.pid⟩, fun h => ⟨h.1, h.2⟩⟩

instance : Decidable (Readable key entry) := decidable_of_iff _ readable_iff.symm

/-- The blame goes to the pid in the entry, if that is written as one. -/
theorem pidField?_eq_some_iff :
    pidField? entry = some pid ↔ entry.field? "pid" = some (.ofWord32 pid) := by
  unfold pidField?
  cases entry.field? "pid" with
  | none => exact ⟨nofun, nofun⟩
  | some value =>
    dsimp only
    constructor
    · -- a pid that was read is written as the value that it was read from
      intro h
      cases hread : value.toWord32 with
      | error mismatch =>
        rw [hread] at h
        cases h
      | ok n =>
        rw [hread] at h
        cases h
        rw [← Json.eq_ofWord32 value pid hread]
    · intro h
      cases h
      exact congrArg Except.toOption (Json.toWord32_ofWord32 pid)

/-- The pid of an entry is looked up in its field first, and then in its key. -/
theorem names_iff {pid? : Option Pid} :
    Names key entry pid? ↔ pid? = (pidField? entry).or (key.bind Pid.parse?) := by
  -- the field comes before the key, and names a process if it holds a pid at all
  have hnone : (∀ pid, entry.field? "pid" ≠ some (.ofWord32 pid)) ↔ pidField? entry = none := by
    simp only [← pidField?_eq_some_iff.not, Option.eq_none_iff_forall_ne_some, ne_eq]
  constructor
  · intro h
    cases h with
    | field hfield => rw [pidField?_eq_some_iff.2 hfield, Option.some_or]
    | key hfield hkey hpid =>
      rw [hnone.1 hfield, Option.none_or, bind_parse?_eq_some_iff.2 ⟨_, hkey, hpid⟩]
    | unknown hfield hkey =>
      rw [hnone.1 hfield, Option.none_or]
      refine (Option.eq_none_iff_forall_ne_some.2 fun pid hpid => ?_).symm
      obtain ⟨text, htext, hwrites⟩ := bind_parse?_eq_some_iff.1 hpid
      exact hkey text pid htext hwrites
  · rintro rfl
    cases hfield : pidField? entry with
    | some pid =>
      rw [Option.some_or]
      exact .field (pidField?_eq_some_iff.1 hfield)
    | none =>
      rw [Option.none_or]
      cases hkey : key.bind Pid.parse? with
      | some pid =>
        obtain ⟨text, htext, hwrites⟩ := bind_parse?_eq_some_iff.1 hkey
        exact .key (hnone.2 hfield) htext hwrites
      | none =>
        refine .unknown (hnone.2 hfield) fun text pid htext hwrites => ?_
        rw [bind_parse?_eq_some_iff.2 ⟨text, htext, hwrites⟩] at hkey
        cases hkey

/-- What is read of the field is what is looked up there. -/
theorem pidField?_of_faithful {s : ProcessSnapshot} (h : s.Faithful entry) :
    pidField? entry = s.pid := by
  have hgiven := h.pid
  cases hpid : s.pid with
  | some pid =>
    rw [hpid] at hgiven
    exact pidField?_eq_some_iff.2 (Json.field?_of_given? hgiven)
  | none =>
    rw [hpid] at hgiven
    refine Option.eq_none_iff_forall_ne_some.2 fun pid hfield => ?_
    unfold Json.given? at hgiven
    rw [pidField?_eq_some_iff.1 hfield] at hgiven
    cases hgiven

/-- A snapshot that is read from an entry: what the entry says, with the pid it is known by. -/
structure ReadAs (key : Option String) (entry : Json) (s : ProcessSnapshot) : Prop where
  pid : ∃ pid, s.pid = some pid ∧ Names key entry (some pid)
  faithful : ∃ own, ProcessSnapshot.Faithful { s with pid := own } entry

/-- A rejected entry, with the pid it is known by. What has the right shape is rejected for want of
a pid only. -/
structure RejectedAs (key : Option String) (entry : Json) (r : Rejected) : Prop where
  pid : Names key entry r.pid
  error : ProcessSnapshot.ofJson entry = .error r.error ∨
    entry.hasShape ProcessSnapshot.shape = true ∧ r = ⟨none, .missing "pid"⟩

/-- An entry is read if it is readable, and rejected otherwise. -/
theorem readEntry_cases (key : Option String) (unique : entry.Unique) :
    (Readable key entry ∧ ∃ s, readEntry key entry = .ok s ∧ ReadAs key entry s) ∨
      ¬ Readable key entry ∧ ∃ r, readEntry key entry = .error r ∧ RejectedAs key entry r := by
  have hshape := ProcessSnapshot.isOk_ofJson unique
  unfold readEntry
  cases hread : ProcessSnapshot.ofJson entry with
  | error mismatch =>
    rw [hread] at hshape
    refine .inr ⟨fun h => ?_, _, rfl, names_iff.2 rfl, .inl hread⟩
    rw [h.shape] at hshape
    cases hshape
  | ok s =>
    have shape : entry.hasShape ProcessSnapshot.shape = true := by rw [← hshape, hread]; rfl
    have faithful := ProcessSnapshot.faithful_of_ofJson hread unique
    -- the pid that was read is the one that is looked up before
    have hfield := pidField?_of_faithful faithful
    have hgiven : (entry.given? "pid").isSome = s.pid.isSome := by
      rw [faithful.pid, Option.isSome_map]
    have hreadable : Readable key entry ↔ (s.pid.or (key.bind Pid.parse?)).isSome = true := by
      rw [readable_iff, and_iff_right shape, hgiven, Option.isSome_or, Bool.or_eq_true]
    rw [hreadable]
    cases hpid : s.pid.or (key.bind Pid.parse?) with
    | some pid =>
      dsimp only
      rw [hpid]
      have hnames : Names key entry (some pid) := names_iff.2 (by rw [hfield, hpid])
      exact .inl ⟨rfl, _, rfl, ⟨pid, rfl, hnames⟩, s.pid, faithful⟩
    | none =>
      dsimp only
      rw [hpid]
      have hnames : Names key entry none := names_iff.2 (by rw [hfield, hpid])
      exact .inr ⟨Bool.false_ne_true, _, rfl, hnames, .inr ⟨shape, rfl⟩⟩

end Entries

/-- The entries of a status in their order, each with its key if it has one. -/
def Status.keyed : Status → List (Option String × Json)
  | .byPid fields => fields.map fun field => (some field.1, field.2)
  | .list items => items.map fun item => (none, item)

namespace Entries

/-- Entries are added to both sides in their order. -/
theorem sorted_foldl {items : List (Option String × Json)} (unique : ∀ e ∈ items, e.2.Unique)
    (entries : Entries) :
    ∃ snapshots rejected,
      items.foldl (fun entries e => entries.push e.1 e.2) entries
        = ⟨entries.snapshots ++ snapshots, entries.rejected ++ rejected⟩ ∧
      List.Forall₂ (fun e s => ReadAs e.1 e.2 s) (items.filter fun e => Readable e.1 e.2)
        snapshots ∧
      List.Forall₂ (fun e r => RejectedAs e.1 e.2 r) (items.filter fun e => ¬ Readable e.1 e.2)
        rejected := by
  -- the entries are pushed from the front, so those of before are part of the statement
  induction items generalizing entries with
  | nil => exact ⟨[], [], by rw [List.append_nil, List.append_nil]; rfl, .nil, .nil⟩
  | cons e rest ih =>
    obtain ⟨snapshots, rejected, hrest, hsnapshots, hrejected⟩ :=
      ih (fun e he => unique e (List.mem_cons_of_mem _ he)) (entries.push e.1 e.2)
    rw [List.foldl_cons, hrest]
    rcases readEntry_cases e.1 (unique e List.mem_cons_self) with
      ⟨hreadable, s, hread, hs⟩ | ⟨hbad, r, hread, hr⟩
    · refine ⟨s :: snapshots, rejected, ?_, ?_, ?_⟩
      · rw [push, hread, List.append_cons]
      · rw [List.filter_cons_of_pos (by simpa using hreadable)]
        exact .cons hs hsnapshots
      · rwa [List.filter_cons_of_neg (by simpa using hreadable)]
    · refine ⟨snapshots, r :: rejected, ?_, ?_, ?_⟩
      · rw [push, hread, List.append_cons]
      · rwa [List.filter_cons_of_neg (by simpa using hbad)]
      · rw [List.filter_cons_of_pos (by simpa using hbad)]
        exact .cons hr hrejected

/-- Which entries of a status are read, and which are rejected: those that are readable, and those
that are not, each in their order. -/
theorem sorted_ofStatus {status : Status} (unique : ∀ entry ∈ status.items, entry.Unique) :
    List.Forall₂ (fun e s => ReadAs e.1 e.2 s) (status.keyed.filter fun e => Readable e.1 e.2)
      (ofStatus status).snapshots ∧
    List.Forall₂ (fun e r => RejectedAs e.1 e.2 r) (status.keyed.filter fun e => ¬ Readable e.1 e.2)
      (ofStatus status).rejected := by
  -- both kinds of status go through one list of entries, with keys or without
  have hitems : ∀ e ∈ status.keyed, e.2.Unique := by
    cases status with
    | byPid fields => exact List.forall_mem_map.2 (List.forall_mem_map.1 unique)
    | list items => exact List.forall_mem_map.2 unique
  have hstatus : ofStatus status
      = status.keyed.foldl (fun entries e => entries.push e.1 e.2) empty := by
    cases status with
    | byPid fields =>
      rw [Status.keyed, List.foldl_map]
      rfl
    | list items =>
      rw [Status.keyed, List.foldl_map]
      rfl
  obtain ⟨snapshots, rejected, hfold, hsnapshots, hrejected⟩ := sorted_foldl hitems empty
  rw [hstatus, hfold]
  exact ⟨hsnapshots, hrejected⟩

/-- Three entries that are read, by their key, by a key with a sign in place of `null`, and by their
field; and three that are not: the pid of one is a text, nothing names the second, and the parent of
the third is out of range. -/
def mixedStatus : Status :=
  .byPid [("7", .object [("name", .string "a")]),
    ("10", .object [("pid", .string "10")]),
    ("+08", .object [("pid", .null), ("time", .nat 3)]),
    ("x", .object []),
    ("y", .object [("pid", .nat 9), ("parent_pid", .null)]),
    ("11", .object [("parent_pid", .nat 4294967296), ("pid", .nat 12)])]

/-- A status with entries of both kinds: each is in its place. -/
theorem sorted_ofStatus_mixedStatus :
    let snapshots := (ofStatus mixedStatus).snapshots
    let rejected := (ofStatus mixedStatus).rejected
    List.Forall₂ (fun e s => ReadAs e.1 e.2 s)
      (mixedStatus.keyed.filter fun e => Readable e.1 e.2) snapshots ∧
    List.Forall₂ (fun e r => RejectedAs e.1 e.2 r)
      (mixedStatus.keyed.filter fun e => ¬ Readable e.1 e.2) rejected ∧
    snapshots.map (·.pid) = [some 7, some 8, some 9] ∧
    rejected.map (·.pid) = [some 10, none, some 12] := by
  have unique : ∀ entry ∈ mixedStatus.items, entry.Unique := by
    simp only [mixedStatus, Status.items, List.map_cons, List.map_nil, List.forall_mem_cons]
    refine ⟨.object (by decide) ?_, .object (by decide) ?_, .object (by decide) ?_,
      .object (by decide) ?_, .object (by decide) ?_, .object (by decide) ?_, nofun⟩ <;>
      simp [Json.Unique.null, Json.Unique.string, Json.nat, Json.Unique.number]
  obtain ⟨hsnapshots, hrejected⟩ := sorted_ofStatus unique
  exact ⟨hsnapshots, hrejected, by decide, by decide⟩

end Entries

end ProcessWatch

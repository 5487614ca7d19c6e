import ProcessWatch.Proofs.Wire.Reading

/-!
# Reading what was written

What was accepted is written as an object again: the typed fields that are there, then all others.
Reading it goes through these fields in the order in which they were written, and each leaves the
part that it was written from.

* **`Fields.readWith_optionalField`**, **`Fields.readWith_toFields`**, **`Fields.Kept.readWith`** —
  what reading makes of one part of what was written.
* **`Json.toMap_ofMap`** — maps are read back if their values are.
* **`Json.accepted_readBack`** — so are processes and identities that were accepted.
-/

namespace ProcessWatch

/-! ## Numbers -/

namespace Json

/-- An unsigned number of 32 bits is read back from what it is written as. -/
theorem toWord32_ofWord32 (n : UInt32) : (ofWord32 n).toWord32 = .ok n := by
  have hlt : (n.toNat : Int) < UInt32.size := by exact_mod_cast n.toNat_lt_size
  unfold ofWord32 nat toWord32
  dsimp only
  rw [if_pos ⟨Int.natCast_nonneg _, hlt⟩, Int.toNat_natCast, Nat.toUInt32, UInt32.ofNat_toNat]

theorem toWord64_ofWord64 (n : UInt64) : (ofWord64 n).toWord64 = .ok n := by
  have hlt : (n.toNat : Int) < UInt64.size := by exact_mod_cast n.toNat_lt_size
  unfold ofWord64 nat toWord64
  dsimp only
  rw [if_pos ⟨Int.natCast_nonneg _, hlt⟩, Int.toNat_natCast, Nat.toUInt64, UInt64.ofNat_toNat]

theorem toInteger64_ofInteger64 (n : Int64) : (ofInteger64 n).toInteger64 = .ok n := by
  have hmin : Int64.minValue.toInt ≤ n.toInt := n.minValue_le_toInt
  have hmax : n.toInt ≤ Int64.maxValue.toInt := n.toInt_le
  unfold ofInteger64 toInteger64
  dsimp only
  rw [if_pos ⟨hmin, hmax⟩, Int64.ofInt_toInt]

/-- A value that is not `null` is read as an optional one, too. -/
theorem toOption_of_read {α : Type} {read : Json → Except Mismatch α} {value : Json} {a : α}
    (hvalue : value.isNull = false) (h : read value = .ok a) :
    value.toOption read = .ok (some a) := by
  have hread : value.toOption read = (read value).map some := by
    cases value <;> first | rfl | cases hvalue
  rw [hread, h]
  rfl

end Json

theorem Reported.ofJson_of_read {α : Type} {read : Json → Except Mismatch α} {value : Json} {a : α}
    (hvalue : value.isNull = false) (h : read value = .ok a) :
    ofJson read value = .ok (.value a) := by
  unfold ofJson
  rw [Json.toOption_of_read hvalue h]
  rfl

/-! ## Parts of objects

What was written is a list of parts behind each other. Each lemma here reads one part off the front
and leaves the others, so that reading a whole object is a chain of such steps. -/

namespace Fields

variable {σ α : Type} {step : σ → String → Json → Except Mismatch σ} {key : String}
  {write : α → Json}

/-- An optional field that is written leaves its part, and one that is not leaves the part empty. -/
theorem readWith_optionalField (part : Option α → σ) {a? : Option α}
    (hstep : ∀ a, a? = some a → step (part none) key (write a) = .ok (part (some a)))
    (rest : Fields) :
    readWith step (part none) (Json.optionalField key write a? ++ rest)
      = readWith step (part a?) rest := by
  cases a? with
  | none => rfl
  | some a =>
    show (step (part none) key (write a)).bind (readWith step · rest) = _
    rw [hstep a rfl]
    rfl

/-- A report leaves its part, be it left out, `null` or a value. -/
theorem readWith_toFields (part : Reported α → σ)
    (hnull : step (part .absent) key .null = .ok (part .null))
    (hstep : ∀ a, step (part .absent) key (write a) = .ok (part (.value a))) (r : Reported α)
    (rest : Fields) :
    readWith step (part .absent) (r.toFields key write ++ rest) = readWith step (part r) rest := by
  cases r with
  | absent => rfl
  | null =>
    show (step (part .absent) key .null).bind (readWith step · rest) = _
    rw [hnull]
    rfl
  | value a =>
    show (step (part .absent) key (write a)).bind (readWith step · rest) = _
    rw [hstep a]
    rfl

/-- Fields with some of the names `keys`, in their order. -/
structure Within (keys : List String) (fields : Fields) : Prop where
  names : (names fields).Sublist keys
  values : ∀ field ∈ fields, field.2.Unique

/-- Fields behind each other have names behind each other. -/
theorem Within.append {keys keys' : List String} {first second : Fields} (h : Within keys first)
    (h' : Within keys' second) : Within (keys ++ keys') (first ++ second) := by
  refine ⟨?_, List.forall_mem_append.2 ⟨h.values, h'.values⟩⟩
  have hnames : Fields.names (first ++ second) = Fields.names first ++ Fields.names second :=
    List.map_append
  rw [hnames]
  exact h.names.append h'.names

theorem within_singleton {key : String} {value : Json} (h : value.Unique) :
    Within [key] [(key, value)] :=
  ⟨.refl _, List.forall_mem_singleton.2 h⟩

/-- An optional field has that name or is not there. -/
theorem within_optionalField {a? : Option α} (h : ∀ a, a? = some a → (write a).Unique) :
    Within [key] (Json.optionalField key write a?) := by
  cases a? with
  | none => exact ⟨List.nil_sublist _, nofun⟩
  | some a => exact within_singleton (h a rfl)

theorem within_toFields {r : Reported α} (h : ∀ a, (write a).Unique) :
    Within [key] (r.toFields key write) := by
  cases r with
  | absent => exact ⟨List.nil_sublist _, nofun⟩
  | null => exact within_singleton .null
  | value a => exact within_singleton (h a)

/-- Fields without places of their own, with no name twice. -/
structure Kept (typed : List String) (fields : Fields) : Prop where
  unique : Unique fields
  untyped : ∀ key ∈ names fields, key ∉ typed

/-- Fields that were kept are kept again. -/
theorem Kept.readWith {typed : List String} {fields : Fields} (h : Kept typed fields)
    (part : Fields → σ)
    (hstep : ∀ kept k v, k ∉ typed → step (part kept) k v = .ok (part (set k v kept))) :
    readWith step (part []) fields = .ok (part fields) := by
  have run (rest kept : Fields) (untyped : ∀ key ∈ names rest, key ∉ typed)
      (nodup : (names (kept ++ rest)).Nodup) :
      Fields.readWith step (part kept) rest = .ok (part (kept ++ rest)) := by
    -- what was read so far is kept, and the names to come are new to it
    induction rest generalizing kept with
    | nil => rw [List.append_nil]; rfl
    | cons field rest ih =>
      obtain ⟨k, v⟩ := field
      have huntyped : k ∉ typed ∧ ∀ key ∈ names rest, key ∉ typed := List.forall_mem_cons.1 untyped
      have hset := append_cons_eq_set nodup
      rw [hset] at nodup
      rw [hset, readWith_cons, hstep kept k v huntyped.1]
      exact ih (set k v kept) huntyped.2 nodup
  exact run fields [] h.untyped h.unique.1

/-- Behind the fields with places of their own they repeat no name. -/
theorem Kept.unique_append {typed : List String} {fields head : Fields} (h : Kept typed fields)
    (nodup : typed.Nodup) (hhead : Within typed head) : Unique (head ++ fields) := by
  have hnames : names (head ++ fields) = names head ++ names fields := List.map_append
  refine ⟨?_, List.forall_mem_append.2 ⟨hhead.values, h.unique.2⟩⟩
  rw [hnames, List.nodup_append]
  refine ⟨hhead.names.nodup nodup, h.unique.1, ?_⟩
  rintro k hk _ hk' rfl
  exact h.untyped k hk' (hhead.names.subset hk)

end Fields

/-- What reading keeps of a value is kept. -/
theorem Json.kept_others {value : Json} (unique : value.Unique) (typed : List String) :
    (value.others typed).Kept typed := by
  refine ⟨unique_others unique typed, fun key hkey => ?_⟩
  cases value with
  | object fields =>
    obtain ⟨field, hfield, rfl⟩ := List.mem_map.1 hkey
    have hfree : (!typed.contains field.1) = true := (List.mem_filter.1 hfield).2
    simpa using hfree
  | null | bool _ | number _ | string _ | array _ => cases hkey

/-! ## Maps -/

/-- The entries of a map are those of the map that is made of them. -/
theorem SortedMap.ofList_entries {κ α : Type} [Ord κ] [Std.TransOrd κ] [Std.LawfulEqOrd κ]
    [DecidableEq κ] (map : SortedMap κ α) : ofList map.entries = map := by
  refine ext_get? fun k => ?_
  rw [get?_ofList]
  cases h : map.get? k with
  | none =>
    refine last?_eq_none_iff.2 ?_
    rintro ⟨k', v⟩ he rfl
    rw [mem_entries_iff.1 he] at h
    cases h
  | some v =>
    refine last?_eq_some (mem_entries_iff.2 h) ?_
    rintro ⟨k', v'⟩ he rfl
    exact Option.some.inj ((mem_entries_iff.1 he).symm.trans h)

/-- A map is read back if every value of it is. -/
theorem Json.toMap_ofMap {α : Type} {read : Json → Except Mismatch α} {write : α → Json}
    {map : SortedMap String α} (h : ∀ k x, map.get? k = some x → read (write x) = .ok x) :
    (ofMap write map).toMap read = .ok map := by
  have fold (entries : List (String × α)) (start : SortedMap String α)
      (hread : ∀ e ∈ entries, read (write e.2) = .ok e.2) :
      (entries.map fun e => (e.1, write e.2)).foldlM
          (fun map field => return map.insert field.1 (← read field.2)) start
        = (.ok (entries.foldl (fun map e => map.insert e.1 e.2) start) : Except Mismatch _) := by
    induction entries generalizing start with
    | nil => rfl
    | cons e rest ih =>
      obtain ⟨he, hrest⟩ := List.forall_mem_cons.1 hread
      rw [List.map_cons, List.foldlM_cons, he]
      exact ih (start.insert e.1 e.2) hrest
  have hentries : ∀ e ∈ map.entries, read (write e.2) = .ok e.2 :=
    fun e he => h e.1 e.2 (SortedMap.mem_entries_iff.1 he)
  refine (fold map.entries .empty hentries).trans ?_
  exact congrArg Except.ok map.ofList_entries

/-- A map is written without repeated names if its values are. -/
theorem Json.unique_ofMap {α : Type} {write : α → Json} {map : SortedMap String α}
    (h : ∀ k x, map.get? k = some x → (write x).Unique) : (ofMap write map).Unique := by
  refine unique_object_iff.2 ⟨?_, ?_⟩
  · have hnames : Fields.names (map.entries.map fun e => (e.1, write e.2)) = map.keys := by
      simp [Fields.names, SortedMap.keys]
    rw [hnames]
    exact map.nodup_keys
  · intro field hfield
    obtain ⟨e, he, rfl⟩ := List.mem_map.1 hfield
    exact h e.1 e.2 (SortedMap.mem_entries_iff.1 he)

/-! ## Descriptors -/

namespace DescriptorSnapshot

variable {d : DescriptorSnapshot}

/-- A descriptor is read back. Each line is one part of what was written. -/
theorem ofJson_toJson (h : d.fields.Kept typedFields) : ofJson d.toJson = .ok d := by
  obtain ⟨kind, readOnly, flags, pos, size, timeOfStat, fields⟩ := d
  have hinteger (n : Int64) := Json.toInteger64_ofInteger64 n
  have hflags (n : Int64) := Json.toOption_of_read rfl (hinteger n)
  have hpos (n : Int64) := Reported.ofJson_of_read rfl (hinteger n)
  have hsize (n : UInt64) := Reported.ofJson_of_read rfl (Json.toWord64_ofWord64 n)
  refine (readFields_eq_readWith _ _).trans ?_
  simp only [List.append_assoc]
  -- the fields are read in the order in which they were written
  calc Fields.readWith readField empty _
      = Fields.readWith readField ⟨kind, none, none, .absent, .absent, .absent, []⟩ _ :=
        Fields.readWith_optionalField
          (mk · none none .absent .absent .absent []) (fun _ _ => rfl) _
    _ = Fields.readWith readField ⟨kind, readOnly, none, .absent, .absent, .absent, []⟩ _ :=
        Fields.readWith_optionalField
          (mk kind · none .absent .absent .absent [])
          (fun _ _ => rfl) _
    _ = Fields.readWith readField ⟨kind, readOnly, flags, .absent, .absent, .absent, []⟩ _ :=
        Fields.readWith_optionalField
          (mk kind readOnly · .absent .absent .absent [])
          (fun n _ => by simp only [readField, hflags]; rfl) _
    _ = Fields.readWith readField ⟨kind, readOnly, flags, pos, .absent, .absent, []⟩ _ :=
        Fields.readWith_toFields
          (mk kind readOnly flags · .absent .absent []) rfl
          (fun n => by simp only [readField, hpos]; rfl) pos _
    _ = Fields.readWith readField ⟨kind, readOnly, flags, pos, size, .absent, []⟩ _ :=
        Fields.readWith_toFields
          (mk kind readOnly flags pos · .absent []) rfl
          (fun n => by simp only [readField, hsize]; rfl) size _
    _ = Fields.readWith readField ⟨kind, readOnly, flags, pos, size, timeOfStat, []⟩ fields :=
        Fields.readWith_toFields
          (mk kind readOnly flags pos size · []) rfl
          (fun _ => rfl) timeOfStat _
    _ = .ok ⟨kind, readOnly, flags, pos, size, timeOfStat, fields⟩ :=
        Fields.Kept.readWith h (mk kind readOnly flags pos size timeOfStat ·)
          fun _ _ v hkey => readField_other _ v hkey

/-- It repeats no name: what it keeps has no name of a typed field. -/
theorem unique_toJson (h : d.fields.Kept typedFields) : d.toJson.Unique :=
  Json.unique_object_iff.2 <| h.unique_append (by decide) <|
    (Fields.within_optionalField fun _ _ => .string _)
    |>.append (Fields.within_optionalField fun _ _ => .bool _)
    |>.append (Fields.within_optionalField fun _ _ => .number _)
    |>.append (Fields.within_toFields fun _ => .number _)
    |>.append (Fields.within_toFields fun _ => .number _)
    |>.append (Fields.within_toFields fun _ => .number _)

end DescriptorSnapshot

/-! ## Processes -/

namespace ProcessSnapshot

variable {s : ProcessSnapshot}

/-- Without repeated names, and with every typed field in its place, down to each descriptor. -/
structure Kept (s : ProcessSnapshot) : Prop where
  fields : s.fields.Kept typedFields
  descriptors : ∀ name descriptors id d, s.openFiles.get? name = some descriptors →
    descriptors.get? id = some d → d.fields.Kept DescriptorSnapshot.typedFields

/-- A snapshot that says what a value without a repeated name says keeps fields without one. -/
theorem Faithful.kept {value : Json} (h : s.Faithful value) (unique : value.Unique) : s.Kept := by
  refine ⟨h.fields ▸ Json.kept_others unique typedFields, ?_⟩
  intro name descriptors id d hname hid
  obtain ⟨files, file, v, hfiles, hfile, hv, hd⟩ := h.descriptor hname hid
  have hunique : v.Unique := Json.unique_of_field?
    (Json.unique_of_field? (Json.unique_of_field? unique hfiles) hfile) hv
  exact hd.fields ▸ Json.kept_others hunique DescriptorSnapshot.typedFields

/-- The open files of a snapshot are read back as a map of maps. -/
theorem toMap_openFiles (h : s.Kept) :
    (Json.ofMap (Json.ofMap DescriptorSnapshot.toJson) s.openFiles).toMap
      (Json.toMap DescriptorSnapshot.ofJson) = .ok s.openFiles :=
  Json.toMap_ofMap fun name descriptors hname =>
    Json.toMap_ofMap fun id d hid =>
      DescriptorSnapshot.ofJson_toJson (h.descriptors name descriptors id d hname hid)

/-- A snapshot is read back. Each line is one part of what was written. -/
theorem ofJson_toJson (h : s.Kept) : ofJson s.toJson = .ok s := by
  have hfiles := toMap_openFiles h
  obtain ⟨pid, parent, time, files, fields⟩ := s
  have hpid (n : UInt32) := Json.toOption_of_read rfl (Json.toWord32_ofWord32 n)
  have hparent (n : UInt32) := Reported.ofJson_of_read rfl (Json.toWord32_ofWord32 n)
  refine (readFields_eq_readWith _ _).trans ?_
  simp only [List.append_assoc]
  calc Fields.readWith readField empty _
      = Fields.readWith readField ⟨pid, .absent, .absent, .empty, []⟩ _ :=
        Fields.readWith_optionalField (mk · .absent .absent .empty [])
          (fun n _ => by simp only [readField, hpid]; rfl) _
    _ = Fields.readWith readField ⟨pid, parent, .absent, .empty, []⟩ _ :=
        Fields.readWith_toFields (mk pid · .absent .empty []) rfl
          (fun n => by simp only [readField, hparent]; rfl) parent _
    _ = Fields.readWith readField ⟨pid, parent, time, .empty, []⟩ _ :=
        Fields.readWith_toFields (mk pid parent · .empty []) rfl (fun _ => rfl) time _
    _ = Fields.readWith readField ⟨pid, parent, time, files, []⟩ fields := by
        rw [List.singleton_append, Fields.readWith_cons]
        simp only [readField, hfiles]
        rfl
    _ = .ok ⟨pid, parent, time, files, fields⟩ :=
        Fields.Kept.readWith h.fields (mk pid parent time files ·)
          fun _ _ v hkey => readField_other _ v hkey

/-- It repeats no name, neither at the top nor inside. -/
theorem unique_toJson (h : s.Kept) : s.toJson.Unique := by
  have hfiles : (Json.ofMap (Json.ofMap DescriptorSnapshot.toJson) s.openFiles).Unique :=
    Json.unique_ofMap fun name descriptors hname =>
      Json.unique_ofMap fun id d hid =>
        DescriptorSnapshot.unique_toJson (h.descriptors name descriptors id d hname hid)
  exact Json.unique_object_iff.2 <| h.fields.unique_append (by decide) <|
    (Fields.within_optionalField fun _ _ => .number _)
    |>.append (Fields.within_toFields fun _ => .number _)
    |>.append (Fields.within_toFields fun _ => .number _)
    |>.append (Fields.within_singleton hfiles)

end ProcessSnapshot

/-! ## Identities -/

namespace Identity

variable {identity : Identity}

/-- An identity is read back unless its command line is `null`, as which none is read. -/
theorem ofJson_toJson (h : identity.fields.Kept typedFields)
    (hcmdline : ∀ cmdline, identity.cmdline = some cmdline → cmdline.isNull = false) :
    ofJson identity.toJson = .ok identity := by
  obtain ⟨pid, parent, cmdline, directory, fields⟩ := identity
  -- the draft that the fields of the identity lead to, which is complete
  let draft : Draft := ⟨some pid, parent.map some, cmdline.map some, directory.map some, fields⟩
  have hcomplete : (Except.ok draft : Except Mismatch Draft).bind Draft.complete
      = .ok ⟨pid, parent, cmdline, directory, fields⟩ := by
    cases parent <;> cases cmdline <;> cases directory <;> rfl
  have hpid := Json.toWord32_ofWord32 pid
  have hparent (n : UInt32) := Json.toOption_of_read rfl (Json.toWord32_ofWord32 n)
  rw [toJson, ofJson_object]
  refine (congrArg (Except.bind · Draft.complete) ?_).trans hcomplete
  simp only [List.append_assoc]
  calc Fields.readWith Draft.read Draft.empty _
      = Fields.readWith Draft.read ⟨some pid, none, none, none, []⟩ _ := by
        rw [List.singleton_append, Fields.readWith_cons]
        simp only [Draft.read, hpid]
        rfl
    _ = Fields.readWith Draft.read ⟨some pid, parent.map some, none, none, []⟩ _ :=
        Fields.readWith_optionalField
          (fun parent => Draft.mk (some pid) (parent.map some) none none [])
          (fun n _ => by simp only [Draft.read, hparent]; rfl) _
    _ = Fields.readWith Draft.read ⟨some pid, parent.map some, cmdline.map some, none, []⟩ _ :=
        Fields.readWith_optionalField
          (fun cmdline => Draft.mk (some pid) (parent.map some) (cmdline.map some) none [])
          (fun v hv => by
            have hnew : v.toOption Except.ok = .ok (some v) :=
              Json.toOption_of_read (hcmdline v hv) rfl
            simp only [Draft.read, id, hnew]
            rfl) _
    _ = Fields.readWith Draft.read
          ⟨some pid, parent.map some, cmdline.map some, directory.map some, []⟩ fields :=
        Fields.readWith_optionalField
          (fun directory =>
            Draft.mk (some pid) (parent.map some) (cmdline.map some) (directory.map some) [])
          (fun _ _ => rfl) _
    _ = .ok draft :=
        Fields.Kept.readWith h
          (Draft.mk (some pid) (parent.map some) (cmdline.map some) (directory.map some) ·)
          fun _ _ v hkey => Draft.read_other _ v hkey

/-- An identity repeats no name, unless its command line does. -/
theorem unique_toJson (h : identity.fields.Kept typedFields)
    (hcmdline : ∀ cmdline, identity.cmdline = some cmdline → cmdline.Unique) :
    identity.toJson.Unique :=
  Json.unique_object_iff.2 <| h.unique_append (by decide) <|
    (Fields.within_singleton (.number _))
    |>.append (Fields.within_optionalField fun _ _ => .number _)
    |>.append (Fields.within_optionalField hcmdline)
    |>.append (Fields.within_optionalField fun _ _ => .string _)

/-- A command line that was read is there in the value. -/
theorem Faithful.field_cmdline {value cmdline : Json} (h : identity.Faithful value)
    (hcmdline : identity.cmdline = some cmdline) :
    value.field? "cmdline" = some cmdline ∧ cmdline.isNull = false := by
  have hgiven : value.given? "cmdline" = some cmdline := h.cmdline.trans hcmdline
  have ⟨hfield, hnull⟩ := Option.filter_eq_some_iff.1 hgiven
  exact ⟨hfield, by simpa using hnull⟩

end Identity

/-- A process or an identity that was accepted is read back from what it is written as. What is left
out, what is `null` and what has a value is so in what was accepted, in what was read and in what is
written, and all other fields stay as they are and in their order. -/
theorem Json.accepted_readBack {value : Json} (unique : value.Unique) :
    (∀ s, ProcessSnapshot.ofJson value = .ok s →
      ProcessSnapshot.ofJson s.toJson = .ok s ∧ s.Faithful value ∧ s.Faithful s.toJson) ∧
    (∀ identity, Identity.ofJson value = .ok identity →
      Identity.ofJson identity.toJson = .ok identity ∧ identity.Faithful value ∧
        identity.Faithful identity.toJson) := by
  constructor
  · intro s h
    -- what is kept repeats no name, so it is read back and says the same again
    have faithful : s.Faithful value := ProcessSnapshot.faithful_of_ofJson h unique
    have kept : s.Kept := faithful.kept unique
    have readBack : ProcessSnapshot.ofJson s.toJson = .ok s := ProcessSnapshot.ofJson_toJson kept
    have written_unique : s.toJson.Unique := ProcessSnapshot.unique_toJson kept
    exact ⟨readBack, faithful, ProcessSnapshot.faithful_of_ofJson readBack written_unique⟩
  · intro identity h
    have faithful : identity.Faithful value := Identity.faithful_of_ofJson h unique
    have kept : identity.fields.Kept Identity.typedFields :=
      faithful.fields ▸ Json.kept_others unique Identity.typedFields
    have readBack : Identity.ofJson identity.toJson = .ok identity :=
      Identity.ofJson_toJson kept fun _ hcmdline => (faithful.field_cmdline hcmdline).2
    have written_unique : identity.toJson.Unique := Identity.unique_toJson kept
      fun _ hcmdline => Json.unique_of_field? unique (faithful.field_cmdline hcmdline).1
    exact ⟨readBack, faithful, Identity.faithful_of_ofJson readBack written_unique⟩

/-- So is an orphan that has a file open of which no position is known. -/
theorem Json.accepted_readBack_orphan :
    let value : Json := .object [("host", .string "a"), ("pid", nat 1), ("parent_pid", .null),
      ("open_files", .object [("f", .object [("3", .object [("pos", .null), ("size", nat 9)])])])]
    value.Unique ∧ ∃ s identity, ProcessSnapshot.ofJson value = .ok s ∧
      Identity.ofJson value = .ok identity ∧ s.parent = .null ∧ s.time = .absent ∧
      ProcessSnapshot.ofJson s.toJson = .ok s ∧ Identity.ofJson identity.toJson = .ok identity := by
  intro value
  have descriptor : (Json.object [("pos", .null), ("size", nat 9)]).Unique :=
    .object (by decide) (by simp [Unique.null, nat, Unique.number])
  have file : (Json.object [("3", .object [("pos", .null), ("size", nat 9)])]).Unique :=
    .object (by decide) (List.forall_mem_singleton.2 descriptor)
  have unique : value.Unique := by
    refine .object (by decide) ?_
    simp only [List.forall_mem_cons]
    exact ⟨.string _, .number _, .null,
      .object (by decide) (List.forall_mem_singleton.2 file), List.forall_mem_nil _⟩
  obtain ⟨processes, identities⟩ := accepted_readBack unique
  exact ⟨unique, _, _, rfl, rfl, rfl, rfl, (processes _ rfl).1, (identities _ rfl).1⟩

end ProcessWatch

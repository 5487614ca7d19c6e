import ProcessWatch.Proofs.Record.Filled
import ProcessWatch.Proofs.Record.Stable
import ProcessWatch.Proofs.Wire.Sent
import ProcessWatch.Record.Encoding

/-!
# Records as they are printed

A record writes its typed fields next to its attributes, so a name may stand in one object twice.
The typed fields of an answer are taken out of its attributes when it is read, and what the tracking
decides is taken out of those of a process; but a descriptor also writes an `id` and a `history`,
and nothing takes these out.

## The architecture

* **`Sample.unique_toJson_ofFields`** — a sample repeats no name, whatever it is made of.
* **`DescriptorRecord.Clear`** — no attribute of a descriptor is named like its id or its history;
  `DescriptorRecord.nodup_names_toJson`: exactly then the descriptor repeats no name.
* **`DescriptorRecord.Printable`**, **`ProcessRecord.Printable`** — what printing needs of the
  records: their attributes were kept apart and their samples repeat no name.
* **`printable_create`**, **`Printable.merge`**, **`Printable.settle`** — everything that happens to
  a record keeps this.
* **`ProcessRecord.unique_toJson_iff`** — which records repeat no name at any level.
-/

namespace ProcessWatch

/-- The names of the fields of an object, as they are written. -/
def Json.names : Json → List String
  | .object fields => Fields.names fields
  | _ => []

/-- A value without repeated names has none at its own level. -/
theorem Json.Unique.nodup_names {value : Json} (h : value.Unique) : value.names.Nodup := by
  cases value with
  | object fields => exact (Json.unique_object_iff.1 h).1
  | null | bool _ | number _ | string _ | array _ => exact .nil

/-- A map is written with its keys as names, and these are distinct. -/
theorem Json.nodup_names_ofMap {α : Type} (write : α → Json) (map : SortedMap String α) :
    (Json.ofMap write map).names.Nodup := by
  have hnames : (Json.ofMap write map).names = map.keys := by
    simp [Json.ofMap, Json.names, Fields.names, SortedMap.keys]
  rw [hnames]
  exact map.nodup_keys

/-- A map is written without repeated names exactly if its values are. -/
theorem Json.unique_ofMap_iff {α : Type} {write : α → Json} {map : SortedMap String α} :
    (Json.ofMap write map).Unique ↔ ∀ k x, map.get? k = some x → (write x).Unique := by
  refine ⟨fun h k x hx => ?_, Json.unique_ofMap⟩
  have hmem : (k, x) ∈ map.entries := SortedMap.mem_entries_iff.2 hx
  exact (Json.unique_object_iff.1 h).2 (k, write x) (List.mem_map.2 ⟨(k, x), hmem, rfl⟩)

/-! ## Samples -/

/-- The typed fields of a record repeat no name when they are sampled. -/
theorem unique_typed {α : Type} {a? : Option α} {write : α → Json} {value : Json}
    (h : a?.map write = some value) (hwrite : ∀ a, (write a).Unique) : value.Unique := by
  obtain ⟨a, _, rfl⟩ := Option.map_eq_some_iff.1 h
  exact hwrite a

/-- A sample repeats no name: the fields that it has a place for are never among its values. -/
theorem Sample.unique_toJson_ofFields (index : Nat) (time : Option Float) (keys : List String)
    {field : String → Option Json} (h : ∀ key value, field key = some value → value.Unique) :
    (ofFields index time keys field).toJson.Unique := by
  -- the fields that every sample has are not sampled a second time
  have hentry : ∀ entry ∈ (ofFields index time keys field).values.entries,
      entry.1 ∉ ["index", "time"] ∧ entry.2.Unique := by
    intro entry hentry
    obtain ⟨key, hkey, hvalue⟩ := List.mem_filterMap.1 (SortedMap.of_mem_ofList hentry)
    obtain ⟨value, hfield, rfl⟩ := Option.map_eq_some_iff.1 hvalue
    have hname : key ≠ "index" ∧ key ≠ "time" := by simpa using (List.mem_filter.1 hkey).2
    exact ⟨by simp [hname], h key value hfield⟩
  have hvalues : Fields.Kept ["index", "time"] (ofFields index time keys field).values.entries := by
    refine ⟨⟨?_, fun entry hmem => (hentry entry hmem).2⟩, fun key hkey => ?_⟩
    · exact (ofFields index time keys field).values.nodup_keys
    · obtain ⟨entry, hmem, rfl⟩ := List.mem_map.1 hkey
      exact (hentry entry hmem).1
  exact Json.unique_object_iff.2 <| hvalues.unique_append (by decide) <|
    (Fields.within_singleton (.number _)).append (Fields.within_optionalField fun _ _ => .number _)

namespace History

variable {α : Type} [BEq α] {P : α → Prop} {h incoming : History α}

/-- What holds of all samples, and of one that may be appended, holds of all afterwards. -/
theorem forall_append (hall : ∀ sample ∈ h.samples, P sample) {sample : α} (hsample : P sample) :
    ∀ sample' ∈ (h.append sample).1.samples, P sample' := by
  unfold append
  split
  · exact hall
  · intro sample' hmem
    rcases List.mem_append.1 (mem_of_mem_newest hmem) with hbefore | hnew
    · exact hall sample' hbefore
    · rw [List.mem_singleton.1 hnew]
      exact hsample

/-- The same for all samples of another history. -/
theorem forall_merge (hall : ∀ sample ∈ h.samples, P sample)
    (hincoming : ∀ sample ∈ incoming.samples, P sample) :
    ∀ sample ∈ (h.merge incoming).samples, P sample := by
  unfold merge
  generalize incoming.samples = samples at hincoming
  induction samples generalizing h with
  | nil => exact hall
  | cons sample rest ih =>
    obtain ⟨hsample, hrest⟩ := List.forall_mem_cons.1 hincoming
    exact ih (forall_append hall hsample) hrest

theorem unique_toJson {h : History Sample} (hall : ∀ sample ∈ h.samples, sample.toJson.Unique) :
    h.toJson.Unique :=
  .array (List.forall_mem_map.2 hall)

end History

/-! ## Descriptors

A descriptor is written with an id before its attributes and a history behind them, and the
attributes may have fields of these names. So it repeats a name exactly if they do. -/

namespace DescriptorRecord

variable {reserved : List String} {d incoming : DescriptorRecord}

/-- The fields that a descriptor writes although no answer has a place for them. -/
def ownFields : List String := ["id", "history"]

/-- No attribute of a descriptor is named like one of these. -/
def Clear (d : DescriptorRecord) : Prop := ∀ key ∈ ownFields, key ∉ Fields.names d.attributes

/-- The attributes repeat no name and have none of the reserved ones, and no sample repeats a
name. -/
structure Printable (reserved : List String) (d : DescriptorRecord) : Prop where
  attributes : d.attributes.Kept reserved
  history : ∀ sample ∈ d.history.samples, sample.toJson.Unique

/-- Whatever field of a descriptor is sampled, its value repeats no name. -/
theorem unique_field (h : Fields.Unique d.attributes) {key : String} {value : Json}
    (hfield : d.field key = some value) : value.Unique := by
  unfold field at hfield
  split at hfield
  next =>
    cases hfield
    exact .string d.id
  next => exact unique_typed hfield .string
  next => exact unique_typed hfield .bool
  next => exact unique_typed hfield fun _ => .number _
  next => exact unique_typed hfield fun _ => .number _
  next => exact unique_typed hfield fun _ => .number _
  next => exact unique_typed hfield fun _ => .number _
  next => exact h.2 _ (Fields.mem_of_get? hfield)

/-- A new descriptor is printed from the fields of its snapshot and from one sample of them. -/
theorem printable_ofSnapshot (ctx : CycleContext) (time : Option Float) (id : String)
    {snapshot : DescriptorSnapshot} (h : snapshot.fields.Kept reserved) :
    (ofSnapshot ctx time id snapshot).Printable reserved := by
  refine ⟨h, History.forall_append nofun ?_⟩
  exact Sample.unique_toJson_ofFields _ _ _ fun _ _ => unique_field h.unique

/-- A merge of two descriptors is printed from what both have. -/
theorem Printable.merge (h : d.Printable reserved) (hi : incoming.Printable reserved)
    (hok : (d.merge incoming).error = none) : (d.merge incoming).value.Printable reserved := by
  rw [merge_of_ok hok]
  exact ⟨h.attributes.merge hi.attributes, History.forall_merge h.history hi.history⟩

/-- The fields that a descriptor writes before its attributes. -/
def headFields : List String := "id" :: DescriptorSnapshot.typedFields

/-- The fields that a descriptor writes before its attributes, as far as it has them. -/
def head (d : DescriptorRecord) : Fields :=
  [("id", Json.string d.id)]
  ++ Json.optionalField "type" Json.string d.kind
  ++ Json.optionalField "read_only" Json.bool d.readOnly
  ++ Json.optionalField "flags" Json.ofInteger64 d.flags
  ++ Json.optionalField "pos" Json.ofInteger64 d.pos
  ++ Json.optionalField "size" Json.ofWord64 d.size
  ++ Json.optionalField "time_of_stat" Json.float d.timeOfStat

/-- A descriptor is written as its own fields, its attributes and its history. -/
theorem toJson_eq (d : DescriptorRecord) :
    d.toJson = .object (d.head ++ d.attributes ++ [("history", d.history.toJson)]) := rfl

/-- What it writes first are its own fields, each at most once. -/
theorem within_head (d : DescriptorRecord) : d.head.Within headFields :=
  (Fields.within_singleton (.string _))
    |>.append (Fields.within_optionalField fun _ _ => .string _)
    |>.append (Fields.within_optionalField fun _ _ => .bool _)
    |>.append (Fields.within_optionalField fun _ _ => .number _)
    |>.append (Fields.within_optionalField fun _ _ => .number _)
    |>.append (Fields.within_optionalField fun _ _ => .number _)
    |>.append (Fields.within_optionalField fun _ _ => .number _)

/-- A descriptor repeats a name exactly if an attribute has that of its id or of its history. -/
theorem nodup_names_toJson (h : d.attributes.Kept DescriptorSnapshot.typedFields) :
    d.toJson.names.Nodup ↔ d.Clear := by
  rw [toJson_eq, Json.names]
  constructor
  · intro hnodup
    rw [Fields.names_append, Fields.names_append, List.nodup_append, List.nodup_append] at hnodup
    obtain ⟨⟨_, _, hfirst⟩, _, hlast⟩ := hnodup
    intro key hown hkey
    -- the id is written before the attributes and the history behind them
    have hcases : key = "id" ∨ key = "history" := by simpa [ownFields] using hown
    rcases hcases with rfl | rfl
    · exact hfirst "id" List.mem_cons_self "id" hkey rfl
    · exact hlast "history" (List.mem_append_right _ hkey) "history" List.mem_cons_self rfl
  · intro hclear
    have hkept : d.attributes.Kept (headFields ++ ["history"]) := by
      -- an attribute has none of the typed names by reading, and none of the two others by
      -- clearness
      refine ⟨h.unique, fun key hkey hhead => ?_⟩
      have hcases : key ∈ ownFields ∨ key ∈ DescriptorSnapshot.typedFields := by
        simp only [headFields, ownFields, List.mem_append, List.mem_cons] at hhead ⊢
        grind
      rcases hcases with hown | htyped
      · exact hclear key hown hkey
      · exact h.untyped key hkey htyped
    exact hkept.nodup_between (by decide) d.within_head.names (.refl _)

/-- A descriptor repeats a name anywhere exactly if an attribute has that of its id or of its
history. -/
theorem unique_toJson_iff (h : d.Printable DescriptorSnapshot.typedFields) :
    d.toJson.Unique ↔ d.Clear := by
  refine ⟨fun hunique => (nodup_names_toJson h.attributes).1 hunique.nodup_names, fun hclear => ?_⟩
  refine Json.unique_object_iff.2 ⟨(nodup_names_toJson h.attributes).2 hclear, ?_⟩
  refine List.forall_mem_append.2 ⟨List.forall_mem_append.2 ⟨d.within_head.values, ?_⟩, ?_⟩
  · exact h.attributes.unique.2
  · exact List.forall_mem_singleton.2 (History.unique_toJson h.history)

/-- Attributes that were kept apart from these names are clear of them. -/
theorem Printable.clear (h : d.Printable reserved) (hown : ∀ key ∈ ownFields, key ∈ reserved) :
    d.Clear :=
  fun key hkey hmem => h.attributes.untyped key hmem (hown key hkey)

end DescriptorRecord

/-! ## Files -/

namespace FileRecord

variable {reserved : List String} {file incoming : FileRecord}

/-- What printing needs of every descriptor of a file. -/
def Printable (reserved : List String) (file : FileRecord) : Prop :=
  ∀ id d, file.descriptors.get? id = some d → d.Printable reserved

/-- A new file is made of its descriptors. -/
theorem printable_ofSnapshot (ctx : CycleContext) (time : Option Float) (name : String)
    {descriptors : SortedMap String DescriptorSnapshot}
    (h : ∀ id d, descriptors.get? id = some d → d.fields.Kept reserved) :
    (ofSnapshot ctx time name descriptors).Printable reserved := by
  intro id d hd
  rw [get?_descriptors_ofSnapshot] at hd
  obtain ⟨snapshot, hid, rfl⟩ := Option.map_eq_some_iff.1 hd
  exact DescriptorRecord.printable_ofSnapshot ctx time id (h id snapshot hid)

/-- Two files merge descriptor by descriptor, or the new one replaces the old. -/
theorem Printable.merge (h : file.Printable reserved) (hi : incoming.Printable reserved)
    (hok : (file.merge incoming).error = none) :
    (file.merge incoming).value.Printable reserved := by
  by_cases hreopen : file.isOpen = false ∧ incoming.isOpen = true
  · rw [merge_reopened hreopen.1 hreopen.2]
    exact hi
  · -- a descriptor of the result is from one of the two files, or was merged from both
    rw [merge_of_not_reopened hreopen] at hok ⊢
    intro id d hd
    rcases Merged.of_get?_maps hok hd with ⟨hx, _⟩ | ⟨_, hy⟩ | ⟨x, y, hx, hy, herr, rfl⟩
    · exact h id d hx
    · exact hi id d hy
    · exact (h id x hx).merge (hi id y hy) herr

/-- A file writes its name, whether it is open, and its descriptors. -/
theorem nodup_names_toJson (file : FileRecord) : file.toJson.names.Nodup := by
  have hnames : file.toJson.names = ["name", "is_open", "descriptors"] := rfl
  rw [hnames]
  decide

/-- So it repeats a name exactly if one of its descriptors does. -/
theorem unique_toJson_iff (h : file.Printable DescriptorSnapshot.typedFields) :
    file.toJson.Unique ↔ ∀ id d, file.descriptors.get? id = some d → d.Clear := by
  have hdescriptors : (Json.ofMap DescriptorRecord.toJson file.descriptors).Unique ↔
      ∀ id d, file.descriptors.get? id = some d → d.Clear := by
    rw [Json.unique_ofMap_iff]
    exact forall₃_congr fun id d hd => DescriptorRecord.unique_toJson_iff (h id d hd)
  rw [← hdescriptors]
  constructor
  · intro hunique
    exact (Json.unique_object_iff.1 hunique).2 _ (.tail _ (.tail _ (.head _)))
  · intro hvalues
    refine Json.unique_object_iff.2 ⟨file.nodup_names_toJson, ?_⟩
    exact List.forall_mem_cons.2 ⟨.string _, List.forall_mem_cons.2 ⟨.bool _,
      List.forall_mem_singleton.2 hvalues⟩⟩

end FileRecord

/-! ## Processes -/

namespace ProcessRecord

variable {reserved : List String} {ctx : CycleContext} {pid : Pid} {p incoming : ProcessRecord}
  {s : ProcessSnapshot}

/-- The attributes have none of the names that the record writes itself, and nothing in the record
repeats a name but perhaps the descriptors, where an attribute has a name that is not reserved. -/
structure Printable (reserved : List String) (p : ProcessRecord) : Prop where
  attributes : p.attributes.Kept ownFields
  history : ∀ sample ∈ p.history.samples, sample.toJson.Unique
  files : ∀ name file, p.files.get? name = some file → file.Printable reserved

/-- Whatever field of a process is sampled, its value repeats no name. -/
theorem unique_field (h : Fields.Unique p.attributes) {key : String} {value : Json}
    (hfield : p.field key = some value) : value.Unique := by
  unfold field at hfield
  split at hfield
  next =>
    cases hfield
    exact .number _
  next => exact unique_typed hfield fun _ => .number _
  next =>
    cases hfield
    exact .bool p.isMaster
  next =>
    cases hfield
    exact .bool p.isRunning
  next => exact unique_typed hfield fun _ => .number _
  next => exact unique_typed hfield fun _ => .number _
  next => exact h.2 _ (Fields.mem_of_get? hfield)

/-- A record writes fields of its own: reading took out some of them, making the record the
others. -/
theorem printable_create (ctx : CycleContext) (pid : Pid) (h : s.Apart reserved) :
    (create ctx pid s).Printable reserved := by
  have hattributes : (create ctx pid s).attributes.Kept ownFields :=
    (h.fields.without trackedFields).mono (by decide)
  refine ⟨hattributes, History.forall_append nofun ?_, ?_⟩
  · exact Sample.unique_toJson_ofFields _ _ _ fun _ _ => unique_field hattributes.unique
  · intro name file hfile
    rw [create_files, SortedMap.get?_mapWithKey] at hfile
    obtain ⟨descriptors, hname, rfl⟩ := Option.map_eq_some_iff.1 hfile
    exact FileRecord.printable_ofSnapshot ctx _ name fun id d =>
      h.descriptors name descriptors id d hname

/-- Filling touches no field without a place of its own. -/
theorem apart_fill (p : ProcessRecord) (h : s.Apart reserved) : (p.fill s).Apart reserved := by
  have hfilled := completes_fill p s
  refine ⟨hfilled.fields ▸ h.fields, ?_⟩
  intro name descriptors id d hname hid
  obtain ⟨descriptors', d', hname', hid', hd⟩ := hfilled.descriptor hname hid
  rw [hd.fields]
  exact h.descriptors name descriptors' id d' hname' hid'

/-- A merge of two records is printed from what both have. -/
theorem Printable.merge (h : p.Printable reserved) (hi : incoming.Printable reserved)
    (hok : (p.merge incoming).error = none) : (p.merge incoming).value.Printable reserved := by
  have hfiles := (merge_error_eq_none_iff.1 hok).2
  rw [merge_of_ok hok]
  refine ⟨h.attributes.merge hi.attributes, History.forall_merge h.history hi.history, ?_⟩
  intro name file hfile
  rcases Merged.of_get?_maps hfiles hfile with ⟨hx, _⟩ | ⟨_, hy⟩ | ⟨x, y, hx, hy, herr, rfl⟩
  · exact h.files name file hx
  · exact hi.files name file hy
  · exact (h.files name x hx).merge (hi.files name y hy) herr

/-- To leave a process or its files out changes nothing but flags and ages, and these are written
once. -/
theorem Printable.settle (h : p.Printable reserved) (reported : ReportedFiles) :
    (p.settle reported).Printable reserved := by
  refine ⟨?_, ?_, ?_⟩
  · rw [settle_eq]
    exact h.attributes
  · rw [settle_eq]
    exact h.history
  · intro name file hfile
    obtain ⟨before, hbefore, rfl⟩ := of_get?_files_settle hfile
    exact h.files name before hbefore

/-- The fields that a record writes before its attributes, as far as it has them. -/
def head (p : ProcessRecord) : Fields :=
  [("pid", Json.ofWord32 p.pid)]
  ++ Json.optionalField "parent_pid" Json.ofWord32 p.parent
  ++ [("is_master", Json.bool p.isMaster), ("is_running", Json.bool p.isRunning)]
  ++ Json.optionalField "age" Json.ofWord32 p.age
  ++ Json.optionalField "time" Json.float p.time

/-- The fields that a record writes behind its attributes. -/
def tail (p : ProcessRecord) : Fields :=
  [("history", p.history.toJson), ("files", Json.ofMap FileRecord.toJson p.files)]

/-- A process is written as its own fields, its attributes, its history and its files. -/
theorem toJson_eq (p : ProcessRecord) : p.toJson = .object (p.head ++ p.attributes ++ p.tail) := rfl

/-- The names of the fields that a record writes before its attributes. -/
def headFields : List String := ["pid", "parent_pid", "is_master", "is_running", "age", "time"]

/-- What it writes first are its own fields, each at most once. -/
theorem within_head (p : ProcessRecord) : p.head.Within headFields := by
  have hflags : Fields.Within ["is_master", "is_running"]
      [("is_master", Json.bool p.isMaster), ("is_running", Json.bool p.isRunning)] :=
    (Fields.within_singleton (.bool _)).append (Fields.within_singleton (.bool _))
  exact (Fields.within_singleton (.number _))
    |>.append (Fields.within_optionalField fun _ _ => .number _)
    |>.append hflags
    |>.append (Fields.within_optionalField fun _ _ => .number _)
    |>.append (Fields.within_optionalField fun _ _ => .number _)

/-- No attribute has the name of a field that the record writes itself. -/
theorem nodup_names_toJson (h : p.Printable reserved) : p.toJson.names.Nodup := by
  have hattributes : p.attributes.Kept (headFields ++ ["history", "files"]) := h.attributes
  rw [toJson_eq, Json.names]
  exact hattributes.nodup_between (by decide) p.within_head.names (.refl _)

/-- A record repeats no name anywhere if none of its descriptors does, and only then. -/
theorem unique_toJson_iff (h : p.Printable DescriptorSnapshot.typedFields) :
    p.toJson.Unique ↔ ∀ name file id d, p.files.get? name = some file →
      file.descriptors.get? id = some d → d.Clear := by
  have hfiles : (Json.ofMap FileRecord.toJson p.files).Unique ↔
      ∀ name file, p.files.get? name = some file →
        ∀ id d, file.descriptors.get? id = some d → d.Clear := by
    rw [Json.unique_ofMap_iff]
    exact forall₃_congr fun name file hfile =>
      FileRecord.unique_toJson_iff (h.files name file hfile)
  constructor
  · intro hunique name file id d hfile hd
    refine hfiles.1 ?_ name file hfile id d hd
    -- the files are the last field that a record writes
    have hlast : ("files", Json.ofMap FileRecord.toJson p.files)
        ∈ p.head ++ p.attributes ++ p.tail :=
      List.mem_append_right _ (.tail _ (.head _))
    exact (Json.unique_object_iff.1 hunique).2 _ hlast
  · intro hclear
    refine Json.unique_object_iff.2 ⟨nodup_names_toJson h, ?_⟩
    refine List.forall_mem_append.2 ⟨List.forall_mem_append.2 ⟨p.within_head.values, ?_⟩, ?_⟩
    · exact h.attributes.unique.2
    · have hall := hfiles.2 fun name file hfile id d => hclear name file id d hfile
      exact List.forall_mem_cons.2
        ⟨History.unique_toJson h.history, List.forall_mem_singleton.2 hall⟩

end ProcessRecord

end ProcessWatch

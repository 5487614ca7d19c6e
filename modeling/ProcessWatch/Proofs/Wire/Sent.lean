import ProcessWatch.Proofs.Attributes.Distinct
import ProcessWatch.Proofs.Wire.Received

/-!
# Snapshots of answers without repeated names

The snapshots that a tracker is given are read from answers in which no object repeats a name.
Reading takes the fields with places of their own out of every process and every descriptor, and
what fills a snapshot later has no such name.

* **`ProcessSnapshot.Sent`** — read from such an answer, then given the pid of a key or filled with
  an identity; `Entries.sent_ofStatus` and `Identity.sent_ofText`: this is what comes of texts.
* **`ProcessSnapshot.Apart`** — no name is repeated among the fields without places of their own,
  and those of a descriptor have none of some names.
* **`ProcessSnapshot.Sent.apart`** — they have none of the names that reading looks for.
-/

namespace ProcessWatch

/-! ## Identities -/

namespace Identity

/-- The command line of an identity repeats no name. -/
def Sent (identity : Identity) : Prop := ∀ cmdline, identity.cmdline = some cmdline → cmdline.Unique

/-- Reading leaves a command line that repeats no name, if the values of the fields repeat none. -/
theorem Draft.unique_cmdline {draft draft' : Draft} {fields : Fields}
    (h : draft.readAll fields = .ok draft') (values : ∀ field ∈ fields, field.2.Unique)
    (unique : ∀ cmdline, draft.cmdline.join = some cmdline → cmdline.Unique) :
    ∀ cmdline, draft'.cmdline.join = some cmdline → cmdline.Unique := by
  induction fields generalizing draft with
  | nil =>
    cases h
    exact unique
  | cons field rest ih =>
    obtain ⟨key, value⟩ := field
    obtain ⟨hvalue, hrest⟩ := List.forall_mem_cons.1 values
    obtain ⟨next, hread, hnext⟩ := of_bind_ok h
    refine ih hnext hrest fun cmdline hcmdline => ?_
    -- only the field of the command line touches it
    have hpart := (Draft.reads_of_read hread).cmdline
    split at hpart
    · rw [hcmdline] at hpart
      cases value with
      | null => cases hpart
      | bool _ | number _ | string _ | array _ | object _ =>
        cases hpart
        exact hvalue
    · exact unique cmdline (hpart ▸ hcmdline)

/-- An identity that was read from a text. -/
theorem sent_ofText {text : String} {identity : Identity} (h : ofText text = .ok identity) :
    identity.Sent := by
  unfold ofText at h
  dsimp only at h
  split at h
  next fields _ =>
    split at h
    next => cases h
    next => cases h
    next hread _ =>
      cases h
      obtain ⟨draft, hfields, hcomplete⟩ := of_bind_ok hread
      -- repeated names were collapsed before the fields are read
      have values : ∀ field ∈ fields.map fun field => (field.1, field.2.collapse),
          field.2.Unique := by
        intro field hfield
        obtain ⟨written, _, rfl⟩ := List.mem_map.1 hfield
        exact Json.unique_collapse written.2
      have hunique := Draft.unique_cmdline hfields values nofun
      unfold Draft.complete at hcomplete
      split at hcomplete
      next => cases hcomplete
      next =>
        cases hcomplete
        exact hunique
  next => cases h
  next => cases h

end Identity

/-! ## Processes -/

namespace ProcessSnapshot

/-- A snapshot that was read from an answer without repeated names, and that may have got the pid of
its key or have been filled with an identity. -/
inductive Sent : ProcessSnapshot → Prop where
  | read {value : Json} {s : ProcessSnapshot} (unique : value.Unique) (h : ofJson value = .ok s) :
      Sent s
  | keyed {s : ProcessSnapshot} (pid : Pid) (h : Sent s) : Sent { s with pid := some pid }
  | filled {s : ProcessSnapshot} {identity : Identity} (told : identity.Sent) (h : Sent s) :
      Sent (s.withIdentity identity)

/-- No name is repeated among the fields without places of their own, down to those of every
descriptor, and a descriptor has no field of a reserved name among them. -/
structure Apart (reserved : List String) (s : ProcessSnapshot) : Prop where
  fields : s.fields.Kept typedFields
  descriptors : ∀ name descriptors id d, s.openFiles.get? name = some descriptors →
    descriptors.get? id = some d → d.fields.Kept reserved

variable {reserved : List String} {s : ProcessSnapshot}

/-- An identity fills fields that are not reserved, with values that repeat no name. -/
theorem Apart.withIdentity (h : s.Apart reserved) {identity : Identity} (told : identity.Sent) :
    (s.withIdentity identity).Apart reserved := by
  refine ⟨?_, h.descriptors⟩
  have hcmdline : "cmdline" ∉ typedFields := by decide
  have hdirectory : "working_directory" ∉ typedFields := by decide
  unfold ProcessSnapshot.withIdentity
  cases hgiven : identity.cmdline with
  | none =>
    cases identity.workingDirectory with
    | none => exact h.fields
    | some directory => exact h.fields.setIfAbsent hdirectory (.string directory)
  | some cmdline =>
    have hfilled := h.fields.setIfAbsent hcmdline (told cmdline hgiven)
    cases identity.workingDirectory with
    | none => exact hfilled
    | some directory => exact hfilled.setIfAbsent hdirectory (.string directory)

/-- Reading leaves no field among the others that has a place of its own. -/
theorem Sent.apart (h : s.Sent) : s.Apart DescriptorSnapshot.typedFields := by
  induction h with
  | read unique h =>
    have kept := (faithful_of_ofJson h unique).kept unique
    exact ⟨kept.fields, kept.descriptors⟩
  | keyed pid _ ih => exact ⟨ih.fields, ih.descriptors⟩
  | filled told _ ih => exact ih.withIdentity told

end ProcessSnapshot

/-- A value repeats no name if there is nothing to merge in it. -/
theorem Json.unique_of_collapse {value : Json} (h : value.collapse = value) : value.Unique :=
  h ▸ unique_collapse value

namespace Entries

/-- The snapshots of a status of which no entry repeats a name. -/
theorem sent_of_items {status : Status} (unique : ∀ entry ∈ status.items, entry.Unique) :
    ∀ s ∈ (ofStatus status).snapshots, s.Sent := by
  intro s hs
  obtain ⟨key, entry, hentry, hkeyed⟩ := of_mem_ofStatus hs
  obtain ⟨read, pid, hread, rfl⟩ := of_readEntry hkeyed
  exact .keyed pid (.read (unique entry hentry) hread)

/-- The snapshots of a status that was read from a text. -/
theorem sent_ofStatus {text : String} {status : Status} (h : Status.ofText text = .ok status) :
    ∀ s ∈ (ofStatus status).snapshots, s.Sent :=
  sent_of_items (unique_items_ofText h)

end Entries

end ProcessWatch

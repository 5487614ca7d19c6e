import ProcessWatch.Proofs.Record.Merge
import ProcessWatch.Proofs.Table.Liveness
import ProcessWatch.Tracker

/-!
# Applying a status, process by process

A status is applied to a whole table, but the record of a process only sees the snapshots of that
process. So a status is taken apart here into what it does to one process, and all that is proved
about a cycle goes through this.

## The architecture

* **`ProcessRecord.renew`** — what one snapshot does to the record of its process, with
  `renew_cases` for what comes of it.
* **`ProcessRecord.follow`** — what all snapshots of a status do to the record of one process, and
  how many of them clash. `foldl_step` says that the table and the list of skipped processes show
  just that.
* **`Entries.pids`** — whose entries a status has, readable or not. What a status reports of a
  process follows from these (`get?_reportedFiles_eq_none_iff`, `get?_reportedFiles_of_blamed`,
  `get?_reportedFiles_of_readable`).
* **`Tracker.process?_apply`**, **`Tracker.count_skipped_apply`** — the record of a process after a
  status, and how often it is listed as skipped.
-/

namespace ProcessWatch

/-! ## One snapshot -/

namespace ProcessRecord

/-- The record of a process after a snapshot of it: merged into the record of one that runs, and new
otherwise. -/
def renew (ctx : CycleContext) (pid : Pid) (known : Option ProcessRecord) (s : ProcessSnapshot) :
    Except MergeError ProcessRecord :=
  match known with
  | some p =>
    if p.isRunning then
      let merged := p.merge (.create ctx pid (p.fill s))
      match merged.error with
      | some cause => .error cause
      | none => .ok merged.value
    else .ok (.create ctx pid s)
  | none => .ok (.create ctx pid s)

variable {ctx : CycleContext} {pid : Pid} {known : Option ProcessRecord} {s : ProcessSnapshot}

/-- A running process is merged into. -/
theorem renew_of_merge {p : ProcessRecord} (running : p.isRunning = true)
    (h : (p.merge (.create ctx pid (p.fill s))).error = none) :
    renew ctx pid (some p) s = .ok (p.merge (.create ctx pid (p.fill s))).value := by
  unfold renew
  dsimp only
  rw [if_pos running, h]

/-- Unless the snapshot clashes with it. -/
theorem renew_of_clash {p : ProcessRecord} {cause : MergeError} (running : p.isRunning = true)
    (h : (p.merge (.create ctx pid (p.fill s))).error = some cause) :
    renew ctx pid (some p) s = .error cause := by
  unfold renew
  dsimp only
  rw [if_pos running, h]

/-- A process that does not run begins anew. -/
theorem renew_of_not_running (h : ∀ p, known = some p → p.isRunning = false) :
    renew ctx pid known s = .ok (create ctx pid s) := by
  cases known with
  | none => rfl
  | some p =>
    unfold renew
    dsimp only
    rw [h p rfl]
    rfl

/-- What a snapshot makes of a record: the merge with one that runs, or a new one. -/
theorem renew_cases {p' : ProcessRecord} (h : renew ctx pid known s = .ok p') :
    (∃ p, known = some p ∧ p.isRunning = true ∧
      (p.merge (.create ctx pid (p.fill s))).error = none ∧
      p' = (p.merge (.create ctx pid (p.fill s))).value) ∨
    ((∀ p, known = some p → p.isRunning = false) ∧ p' = create ctx pid s) := by
  -- a snapshot is merged only into a record that runs
  by_cases hrun : ∃ p, known = some p ∧ p.isRunning = true
  · obtain ⟨p, rfl, running⟩ := hrun
    cases herr : (p.merge (.create ctx pid (p.fill s))).error with
    | none =>
      rw [renew_of_merge running herr] at h
      cases h
      exact .inl ⟨p, rfl, running, herr, rfl⟩
    | some cause =>
      rw [renew_of_clash running herr] at h
      cases h
  · have hstopped : ∀ p, known = some p → p.isRunning = false := fun p hp =>
      Bool.eq_false_iff.2 fun running => hrun ⟨p, hp, running⟩
    rw [renew_of_not_running hstopped] at h
    cases h
    exact .inr ⟨hstopped, rfl⟩

/-- A snapshot that is not skipped leaves a process that runs. -/
theorem isRunning_renew {p : ProcessRecord} (h : renew ctx pid known s = .ok p) :
    p.isRunning = true := by
  rcases renew_cases h with ⟨old, _, _, hok, rfl⟩ | ⟨_, rfl⟩
  · rw [merge_of_ok hok]
    rfl
  · rfl

/-- Only a record that runs clashes. -/
theorem renew_error {cause : MergeError} (h : renew ctx pid known s = .error cause) :
    ∃ p, known = some p ∧ p.isRunning = true ∧
      (p.merge (.create ctx pid (p.fill s))).error = some cause := by
  by_cases hrun : ∃ p, known = some p ∧ p.isRunning = true
  · obtain ⟨p, rfl, running⟩ := hrun
    cases herr : (p.merge (.create ctx pid (p.fill s))).error with
    | none =>
      rw [renew_of_merge running herr] at h
      cases h
    | some cause' =>
      rw [renew_of_clash running herr] at h
      cases h
      exact ⟨p, rfl, running, herr⟩
  · have hstopped : ∀ p, known = some p → p.isRunning = false := fun p hp =>
      Bool.eq_false_iff.2 fun running => hrun ⟨p, hp, running⟩
    rw [renew_of_not_running hstopped] at h
    cases h

/-! ## All snapshots of a process

A status may have several snapshots of one process. To follow its record through them, all others
can be passed over, as a snapshot touches no record but its own. -/

/-- The record of a process after some snapshots, and the number of its snapshots that clashed. The
snapshots of other processes are passed over, and so are those that clash. -/
def follow (ctx : CycleContext) (pid : Pid) (known : Option ProcessRecord) :
    List ProcessSnapshot → Option ProcessRecord × Nat
  | [] => (known, 0)
  | s :: rest =>
    if s.pid = some pid then
      match renew ctx pid known s with
      | .ok p => follow ctx pid (some p) rest
      | .error _ =>
        let (last, clashes) := follow ctx pid known rest
        (last, clashes + 1)
    else follow ctx pid known rest

theorem follow_other {rest : List ProcessSnapshot} (h : s.pid ≠ some pid) :
    follow ctx pid known (s :: rest) = follow ctx pid known rest := by
  rw [follow, if_neg h]

/-- A snapshot that goes through makes the record that the rest meets. -/
theorem follow_ok {rest : List ProcessSnapshot} {p : ProcessRecord} (h : s.pid = some pid)
    (hok : renew ctx pid known s = .ok p) :
    follow ctx pid known (s :: rest) = follow ctx pid (some p) rest := by
  rw [follow, if_pos h, hok]

/-- One that clashes is counted, and leaves the record to the rest. -/
theorem follow_error {rest : List ProcessSnapshot} {cause : MergeError} (h : s.pid = some pid)
    (herr : renew ctx pid known s = .error cause) :
    follow ctx pid known (s :: rest)
      = ((follow ctx pid known rest).1, (follow ctx pid known rest).2 + 1) := by
  rw [follow, if_pos h, herr]

/-- A process without a snapshot keeps its record. -/
theorem follow_of_absent {snapshots : List ProcessSnapshot}
    (h : ∀ s ∈ snapshots, s.pid ≠ some pid) : follow ctx pid known snapshots = (known, 0) := by
  induction snapshots with
  | nil => rfl
  | cons s rest ih =>
    rw [follow_other (h s List.mem_cons_self)]
    exact ih fun s hs => h s (List.mem_cons_of_mem _ hs)

theorem count_pids_cons_self (rest : List ProcessSnapshot) (h : s.pid = some pid) :
    ((s :: rest).filterMap (·.pid)).count pid = (rest.filterMap (·.pid)).count pid + 1 := by
  rw [List.filterMap_cons_some h, List.count_cons_self]

theorem count_pids_cons_other (rest : List ProcessSnapshot) (h : s.pid ≠ some pid) :
    ((s :: rest).filterMap (·.pid)).count pid = (rest.filterMap (·.pid)).count pid := by
  cases hpid : s.pid with
  | none => rw [List.filterMap_cons_none hpid]
  | some other =>
    rw [List.filterMap_cons_some hpid, List.count_cons_of_ne]
    rintro rfl
    exact h hpid

/-- No more snapshots clash than there are; and if all of them do, the record stays. -/
theorem follow_clashes (ctx : CycleContext) (pid : Pid) (known : Option ProcessRecord)
    (snapshots : List ProcessSnapshot) :
    (follow ctx pid known snapshots).2 ≤ (snapshots.filterMap (·.pid)).count pid ∧
      ((follow ctx pid known snapshots).2 = (snapshots.filterMap (·.pid)).count pid →
        (follow ctx pid known snapshots).1 = known) := by
  induction snapshots generalizing known with
  | nil => exact ⟨Nat.le_refl 0, fun _ => rfl⟩
  | cons s rest ih =>
    by_cases hs : s.pid = some pid
    · have hcount := count_pids_cons_self rest hs
      cases hrenew : renew ctx pid known s with
      | ok p =>
        -- one snapshot that goes through is one too few that clash
        have hle := (ih (some p)).1
        rw [follow_ok hs hrenew, hcount]
        exact ⟨by omega, fun heq => absurd heq (by omega)⟩
      | error cause =>
        obtain ⟨hle, hall⟩ := ih known
        rw [follow_error hs hrenew, hcount]
        exact ⟨Nat.succ_le_succ hle, fun heq => hall (Nat.succ.inj heq)⟩
    · rw [follow_other hs, count_pids_cons_other rest hs]
      exact ih known

/-- What holds of a record, and what every snapshot of its process keeps, holds after all of them.
The induction over a status. -/
theorem follow_induction {P : Option ProcessRecord → Prop} {snapshots : List ProcessSnapshot}
    (step : ∀ known s p, s ∈ snapshots → s.pid = some pid → P known →
      renew ctx pid known s = .ok p → P (some p))
    (start : P known) : P (follow ctx pid known snapshots).1 := by
  induction snapshots generalizing known with
  | nil => exact start
  | cons s rest ih =>
    have ih' {known : Option ProcessRecord} (hknown : P known) :
        P (follow ctx pid known rest).1 :=
      ih (fun known s p hs => step known s p (List.mem_cons_of_mem _ hs)) hknown
    by_cases hs : s.pid = some pid
    · cases hrenew : renew ctx pid known s with
      | ok p =>
        rw [follow_ok hs hrenew]
        exact ih' (step known s p List.mem_cons_self hs start hrenew)
      | error cause =>
        rw [follow_error hs hrenew]
        exact ih' start
    · rw [follow_other hs]
      exact ih' start

/-- What holds of the known record, and of whatever a snapshot makes of one that it holds of, holds
of the record after all snapshots. There need not be a record to begin with. -/
theorem forall_follow {P : ProcessRecord → Prop} {snapshots : List ProcessSnapshot}
    (step : ∀ known s p, s ∈ snapshots → s.pid = some pid → (∀ old, known = some old → P old) →
      renew ctx pid known s = .ok p → P p)
    (start : ∀ old, known = some old → P old) :
    ∀ p, (follow ctx pid known snapshots).1 = some p → P p := by
  refine follow_induction (P := fun record => ∀ p, record = some p → P p) ?_ start
  intro known s p hmem hpid hbefore hrenew p' heq
  cases heq
  exact step known s p hmem hpid hbefore hrenew

end ProcessRecord

/-! ## The table -/

namespace ProcessTable

/-- A table changes only at the pid of the snapshot. -/
theorem track_of_renew {ctx : CycleContext} {table : ProcessTable} {s : ProcessSnapshot} {pid : Pid}
    (h : s.pid = some pid) :
    table.track ctx s =
      match ProcessRecord.renew ctx pid (table.get? pid) s with
      | .ok p => .ok (table.insert pid p)
      | .error cause => .error (.clash pid cause) := by
  unfold track ProcessRecord.renew
  rw [h]
  dsimp only
  cases table.get? pid with
  | none => rfl
  | some known =>
    dsimp only
    cases known.isRunning with
    | false => rfl
    | true =>
      rw [if_pos rfl, if_pos rfl]
      cases (known.merge (.create ctx pid (known.fill s))).error <;> rfl

end ProcessTable

namespace Tracking

open ProcessRecord (renew follow follow_ok follow_error follow_other)

variable {ctx : CycleContext} {t : Tracking} {s : ProcessSnapshot}

/-- A snapshot without a pid changes nothing. -/
theorem step_of_no_pid (ctx : CycleContext) (t : Tracking) (h : s.pid = none) :
    (t.step ctx s).table = t.table ∧ (t.step ctx s).skipped = t.skipped := by
  have htrack : t.table.track ctx s = .error .missingPid := by
    unfold ProcessTable.track
    rw [h]
  unfold step
  rw [htrack]
  refine ⟨rfl, ?_⟩
  show t.skipped ++ s.pid.toList = t.skipped
  rw [h]
  exact List.append_nil _

/-- One that goes through changes the table and is not skipped. -/
theorem step_of_ok {pid : Pid} {p : ProcessRecord} (h : s.pid = some pid)
    (hok : renew ctx pid (t.table.get? pid) s = .ok p) :
    (t.step ctx s).table = t.table.insert pid p ∧ (t.step ctx s).skipped = t.skipped := by
  have htrack : t.table.track ctx s = .ok (t.table.insert pid p) := by
    rw [ProcessTable.track_of_renew h, hok]
  unfold step
  rw [htrack]
  exact ⟨rfl, rfl⟩

/-- One that clashes is skipped and changes nothing. -/
theorem step_of_error {pid : Pid} {cause : MergeError} (h : s.pid = some pid)
    (herr : renew ctx pid (t.table.get? pid) s = .error cause) :
    (t.step ctx s).table = t.table ∧ (t.step ctx s).skipped = t.skipped ++ [pid] := by
  have htrack : t.table.track ctx s = .error (.clash pid cause) := by
    rw [ProcessTable.track_of_renew h, herr]
  unfold step
  rw [htrack]
  refine ⟨rfl, ?_⟩
  show t.skipped ++ s.pid.toList = t.skipped ++ [pid]
  rw [h]
  rfl

/-- A step for another process leaves a record and its share of the skipped list alone. -/
theorem step_other (ctx : CycleContext) (t : Tracking) {pid : Pid} (h : s.pid ≠ some pid) :
    (t.step ctx s).table.get? pid = t.table.get? pid ∧
      (t.step ctx s).skipped.count pid = t.skipped.count pid := by
  cases hpid : s.pid with
  | none =>
    obtain ⟨htable, hskipped⟩ := step_of_no_pid ctx t hpid
    rw [htable, hskipped]
    exact ⟨rfl, rfl⟩
  | some other =>
    have hne : pid ≠ other := by
      rintro rfl
      exact h hpid
    -- the table changes at the pid of the snapshot, and that is the one that may be skipped
    cases hrenew : renew ctx other (t.table.get? other) s with
    | ok p =>
      obtain ⟨htable, hskipped⟩ := step_of_ok hpid hrenew
      rw [htable, hskipped, SortedMap.get?_insert_of_ne t.table p hne]
      exact ⟨rfl, rfl⟩
    | error cause =>
      obtain ⟨htable, hskipped⟩ := step_of_error hpid hrenew
      rw [htable, hskipped, List.count_append, List.count_singleton, if_neg]
      · exact ⟨rfl, rfl⟩
      · intro heq
        exact hne (beq_iff_eq.1 heq).symm

/-- The table and the skipped list after some snapshots, as seen from one process. -/
theorem foldl_step (pid : Pid) (snapshots : List ProcessSnapshot) (t : Tracking) :
    (snapshots.foldl (step ctx) t).table.get? pid
        = (follow ctx pid (t.table.get? pid) snapshots).1 ∧
      (snapshots.foldl (step ctx) t).skipped.count pid
        = t.skipped.count pid + (follow ctx pid (t.table.get? pid) snapshots).2 := by
  induction snapshots generalizing t with
  | nil => exact ⟨rfl, rfl⟩
  | cons s rest ih =>
    rw [List.foldl_cons]
    -- the rest starts from what `s` leaves, so the induction is over all trackings
    obtain ⟨ihTable, ihSkipped⟩ := ih (t.step ctx s)
    rw [ihTable, ihSkipped]
    by_cases hs : s.pid = some pid
    · cases hrenew : renew ctx pid (t.table.get? pid) s with
      | ok p =>
        obtain ⟨htable, hskipped⟩ := step_of_ok hs hrenew
        rw [htable, hskipped, SortedMap.get?_insert_self, follow_ok hs hrenew]
        exact ⟨rfl, rfl⟩
      | error cause =>
        obtain ⟨htable, hskipped⟩ := step_of_error hs hrenew
        rw [htable, hskipped, follow_error hs hrenew, List.count_append, List.count_singleton_self]
        refine ⟨rfl, ?_⟩
        dsimp only
        omega
    · obtain ⟨htable, hskipped⟩ := step_other ctx t hs
      rw [htable, hskipped, follow_other hs]
      exact ⟨rfl, rfl⟩

end Tracking

/-! ## What a status reports

Reported are the files of each readable entry, the last one counting, and for an entry that could
not be read those that are known to be open. -/

namespace Entries

/-- The processes that a status has entries of, once for each entry. -/
def pids (entries : Entries) : List Pid := entries.snapshots.filterMap (·.pid) ++ entries.blamed

variable {entries : Entries} {table : ProcessTable} {pid : Pid}

/-- A status has the processes of its snapshots and of its rejected entries. -/
theorem mem_pids_iff :
    pid ∈ entries.pids ↔ (∃ s ∈ entries.snapshots, s.pid = some pid) ∨ pid ∈ entries.blamed := by
  rw [pids, List.mem_append, List.mem_filterMap]

/-- The readable entries of one process, in the order of the status. -/
def snapshotsOf (entries : Entries) (pid : Pid) : List ProcessSnapshot :=
  entries.snapshots.filter fun s => s.pid = some pid

theorem mem_snapshotsOf_iff {s : ProcessSnapshot} :
    s ∈ entries.snapshotsOf pid ↔ s ∈ entries.snapshots ∧ s.pid = some pid := by
  rw [snapshotsOf, List.mem_filter, decide_eq_true_eq]

/-- There are as many of them as its pid occurs. -/
theorem length_snapshotsOf (entries : Entries) (pid : Pid) :
    (entries.snapshotsOf pid).length = (entries.snapshots.filterMap (·.pid)).count pid := by
  unfold snapshotsOf
  induction entries.snapshots with
  | nil => rfl
  | cons s rest ih =>
    by_cases hs : s.pid = some pid
    · rw [List.filter_cons_of_pos (by simpa using hs), List.length_cons, ih,
        ProcessRecord.count_pids_cons_self rest hs]
    · rw [List.filter_cons_of_neg (by simpa using hs), ih,
        ProcessRecord.count_pids_cons_other rest hs]

/-- Only the snapshots of a process count for its record. -/
theorem follow_snapshotsOf (ctx : CycleContext) (known : Option ProcessRecord) :
    ProcessRecord.follow ctx pid known (entries.snapshotsOf pid)
      = ProcessRecord.follow ctx pid known entries.snapshots := by
  unfold snapshotsOf
  induction entries.snapshots generalizing known with
  | nil => rfl
  | cons s rest ih =>
    by_cases hs : s.pid = some pid
    · rw [List.filter_cons_of_pos (by simpa using hs)]
      cases hrenew : ProcessRecord.renew ctx pid known s with
      | ok p => rw [ProcessRecord.follow_ok hs hrenew, ProcessRecord.follow_ok hs hrenew, ih]
      | error cause =>
        rw [ProcessRecord.follow_error hs hrenew, ProcessRecord.follow_error hs hrenew, ih]
    · rw [List.filter_cons_of_neg (by simpa using hs), ProcessRecord.follow_other hs, ih]

/-- The readable entries with the files that they list. -/
def readable (entries : Entries) : List (Pid × List String) :=
  entries.snapshots.filterMap fun s => s.pid.map (·, s.openFiles.keys)

/-- The rejected entries with the files that are open anyway. -/
def assumed (entries : Entries) (table : ProcessTable) : List (Pid × List String) :=
  entries.blamed.map fun pid => (pid, table.openFileNames pid)

/-- A readable entry reports the files that it lists. -/
theorem mem_readable_iff {names : List String} :
    (pid, names) ∈ entries.readable ↔
      ∃ s ∈ entries.snapshots, s.pid = some pid ∧ s.openFiles.keys = names := by
  rw [readable, List.mem_filterMap]
  constructor
  · rintro ⟨s, hs, heq⟩
    obtain ⟨pid', hpid', heq'⟩ := Option.map_eq_some_iff.1 heq
    cases heq'
    exact ⟨s, hs, hpid', rfl⟩
  · rintro ⟨s, hs, hpid, rfl⟩
    refine ⟨s, hs, ?_⟩
    rw [hpid]
    rfl

/-- Rejected entries count after the readable ones. -/
theorem get?_reportedFiles :
    (entries.reportedFiles table).get? pid
      = (SortedMap.last? pid (entries.assumed table)).or
        (SortedMap.last? pid entries.readable) := by
  show (SortedMap.ofList (entries.readable ++ entries.assumed table)).get? pid = _
  rw [SortedMap.get?_ofList, SortedMap.last?_append]

/-- A process with a rejected entry is taken to have the files open that it has open. -/
theorem get?_reportedFiles_of_blamed (h : pid ∈ entries.blamed) :
    (entries.reportedFiles table).get? pid = some (table.openFileNames pid) := by
  have hassumed : SortedMap.last? pid (entries.assumed table) = some (table.openFileNames pid) := by
    refine SortedMap.last?_eq_some (List.mem_map.2 ⟨pid, h, rfl⟩) ?_
    rintro e he rfl
    obtain ⟨blamed, _, rfl⟩ := List.mem_map.1 he
    rfl
  rw [get?_reportedFiles, hassumed, Option.some_or]

/-- Nothing is assumed of a process whose entries were all readable. -/
theorem last?_assumed_of_not_blamed (h : pid ∉ entries.blamed) :
    SortedMap.last? pid (entries.assumed table) = none := by
  refine SortedMap.last?_eq_none_iff.2 ?_
  rintro e he rfl
  obtain ⟨blamed, hblamed, rfl⟩ := List.mem_map.1 he
  exact h hblamed

/-- If all entries of a process are readable and list the same files, these are reported. -/
theorem get?_reportedFiles_of_readable {names : List String} (notBlamed : pid ∉ entries.blamed)
    (listed : ∃ s ∈ entries.snapshots, s.pid = some pid)
    (same : ∀ s ∈ entries.snapshots, s.pid = some pid → s.openFiles.keys = names) :
    (entries.reportedFiles table).get? pid = some names := by
  obtain ⟨s, hs, hpid⟩ := listed
  rw [get?_reportedFiles, last?_assumed_of_not_blamed notBlamed, Option.none_or]
  refine SortedMap.last?_eq_some (mem_readable_iff.2 ⟨s, hs, hpid, same s hs hpid⟩) ?_
  rintro ⟨pid', names'⟩ he rfl
  obtain ⟨s', hs', hpid', rfl⟩ := mem_readable_iff.1 he
  exact same s' hs' hpid'

/-- What has no entry is not reported. -/
theorem get?_reportedFiles_eq_none_iff :
    (entries.reportedFiles table).get? pid = none ↔ pid ∉ entries.pids := by
  rw [get?_reportedFiles, Option.or_eq_none_iff, SortedMap.last?_eq_none_iff,
    SortedMap.last?_eq_none_iff, mem_pids_iff, not_or, and_comm]
  -- readable entries on one side, rejected ones on the other
  refine and_congr ⟨?_, ?_⟩ ⟨?_, ?_⟩
  · rintro h ⟨s, hs, hpid⟩
    exact h _ (mem_readable_iff.2 ⟨s, hs, hpid, rfl⟩) rfl
  · rintro h ⟨pid', names⟩ he rfl
    obtain ⟨s, hs, hpid, _⟩ := mem_readable_iff.1 he
    exact h ⟨s, hs, hpid⟩
  · intro h hblamed
    exact h _ (List.mem_map.2 ⟨pid, hblamed, rfl⟩) rfl
  · rintro h e he rfl
    obtain ⟨blamed, hblamed, rfl⟩ := List.mem_map.1 he
    exact h hblamed

/-- Exactly the processes of a status are reported, by an entry or by the blame for one. -/
theorem contains_reportedFiles_iff :
    (entries.reportedFiles table).contains pid = true ↔ pid ∈ entries.pids := by
  rw [SortedMap.contains, ← Option.ne_none_iff_isSome, ne_eq, get?_reportedFiles_eq_none_iff,
    Decidable.not_not]

end Entries

/-! ## The tracker -/

namespace Tracker

open ProcessRecord (follow)

/-- What a status starts from: nothing is merged, and the rejected entries are skipped. -/
def tracking (t : Tracker) (entries : Entries) : Tracking :=
  ⟨t.processes, entries.blamed, entries.rejected.map Entries.rejection⟩

/-- The table with the snapshots of a status in it, before what the status leaves out. -/
def joined (t : Tracker) (settings : Settings) (entries : Entries) : ProcessTable :=
  (entries.snapshots.foldl (Tracking.step (t.context settings))
    ⟨t.processes, entries.blamed, entries.rejected.map Entries.rejection⟩).table

/-- The table as a status leaves it, and what it changes by leaving something out. -/
def reconciled (t : Tracker) (settings : Settings) (entries : Entries) : ProcessTable × Changes :=
  (t.joined settings entries).reconcile settings.keepDeadFor (entries.reportedFiles t.processes)

variable (t : Tracker) (settings : Settings) (entries : Entries) (pid : Pid)

/-- A status changes the records and the count of the cycles. -/
theorem tracker_apply :
    (t.apply settings entries).1
      = { t with processes := (t.reconciled settings entries).1, cycles := t.cycles + 1 } := rfl

/-- The skipped processes are those of the rejected entries and then those that clashed. -/
theorem skipped_apply :
    (t.apply settings entries).2.1.skipped
      = (entries.snapshots.foldl (Tracking.step (t.context settings))
          (t.tracking entries)).skipped := rfl

/-- What a report says, part by part. -/
theorem report_apply :
    (t.apply settings entries).2.1 =
      { index := t.cycles
        processes := (t.reconciled settings entries).1.size
        skipped := (t.apply settings entries).2.1.skipped
        changes := (t.reconciled settings entries).2
        tree := (t.reconciled settings entries).1.project settings.treeKeys } := rfl

/-- The record of a process within a cycle, before anything is left out. -/
theorem get?_joined :
    (t.joined settings entries).get? pid
      = (follow (t.context settings) pid (t.process? pid) entries.snapshots).1 :=
  (Tracking.foldl_step pid entries.snapshots _).1

/-- The reported stops are of the processes of that table that run and are not reported. -/
theorem stopped_apply :
    (t.apply settings entries).2.1.changes.stopped
      = (t.joined settings entries).stopping (entries.reportedFiles t.processes) := rfl

/-- The reported closings are of its open files that are not listed. -/
theorem closedFiles_apply :
    (t.apply settings entries).2.1.changes.closedFiles
      = (t.joined settings entries).closing (entries.reportedFiles t.processes) := rfl

/-- What is reported as culled are its expired families. -/
theorem culled_apply :
    (t.apply settings entries).2.1.changes.culled
      = (t.joined settings entries).culled settings.keepDeadFor
        (entries.reportedFiles t.processes) := rfl

/-- The record of a process after a status: what its snapshots make of it, settled, unless it is
culled. -/
theorem process?_apply :
    (t.apply settings entries).1.process? pid =
      if pid ∈ (t.apply settings entries).2.1.changes.culled then none
      else (follow (t.context settings) pid (t.process? pid) entries.snapshots).1.map
        (·.settle (entries.reportedFiles t.processes)) := by
  rw [culled_apply, ← get?_joined]
  exact ProcessTable.get?_reconcile _ _ _ pid

/-- The record of a process that is tracked after a status is one that was joined, settled. -/
theorem joined_of_process?_apply {pid : Pid} {p : ProcessRecord}
    (h : (t.apply settings entries).1.process? pid = some p) :
    ∃ old, (t.joined settings entries).get? pid = some old ∧
      old.settle (entries.reportedFiles t.processes) = p := by
  rw [process?_apply, ← get?_joined] at h
  split at h
  next => cases h
  next => exact Option.map_eq_some_iff.1 h

/-- A process is listed as skipped once for each rejected entry of it and for each that clashes. -/
theorem count_skipped_apply :
    (t.apply settings entries).2.1.skipped.count pid
      = entries.blamed.count pid
        + (follow (t.context settings) pid (t.process? pid) entries.snapshots).2 := by
  rw [skipped_apply]
  exact (Tracking.foldl_step pid entries.snapshots (t.tracking entries)).2

end Tracker

end ProcessWatch

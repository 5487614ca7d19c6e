import ProcessWatch.Proofs.Tracker.Accounts
import ProcessWatch.Proofs.Tracker.Listed

/-!
# Processes do not see each other

What a status does to a process is decided by the record of that process, by its own entries, by the
number of the cycle and by who the master process is. The entries and the records of all others have
no part in it, be they readable or not. The one thing that reaches from a process to another is the
removal of a family, which takes a process away as a whole.

So the order of the entries does not matter either, as long as no process has two of them.

## The architecture

* **`Entries.Alike`** — two statuses have the same entries of one process. What they report of it is
  the same then (`Alike.get?_reportedFiles`), and so is what its snapshots do (`Alike.follow`).
* **`Tracker.get?_joined_congr`** — the record of the process with its snapshots in it.
* **`Tracker.isolated_apply`** — two trackers that agree about a process, and two statuses that do.
* **`Entries.alike_of_perm`**, **`Tracker.apply_perm`** — a status in another order has the same
  entries of every process, and does the same.
-/

namespace ProcessWatch

/-! ## The entries of one process -/

namespace Entries

/-- The rejected entries of one process, in the order of the status. -/
def rejectedOf (entries : Entries) (pid : Pid) : List Rejected :=
  entries.rejected.filter fun r => r.pid = some pid

/-- Two statuses have the same entries of a process, in the same order. -/
structure Alike (pid : Pid) (entries entries' : Entries) : Prop where
  readable : entries.snapshotsOf pid = entries'.snapshotsOf pid
  rejected : entries.rejectedOf pid = entries'.rejectedOf pid

variable {entries entries' : Entries} {table table' : ProcessTable} {pid : Pid}

/-- A process has as many rejected entries as it is blamed for. -/
theorem length_rejectedOf (entries : Entries) (pid : Pid) :
    (entries.rejectedOf pid).length = entries.blamed.count pid := by
  unfold rejectedOf blamed
  rw [List.count_filterMap, List.countP_eq_length_filter]
  refine congrArg List.length (List.filter_congr fun r _ => ?_)
  exact Bool.beq_eq_decide_eq r.pid (some pid) |>.symm

namespace Alike

/-- Statuses that are alike for a process blame it as often. -/
theorem count_blamed (alike : entries.Alike pid entries') :
    entries.blamed.count pid = entries'.blamed.count pid := by
  rw [← length_rejectedOf, ← length_rejectedOf, alike.rejected]

theorem mem_blamed_iff (alike : entries.Alike pid entries') :
    pid ∈ entries.blamed ↔ pid ∈ entries'.blamed := by
  rw [← List.count_pos_iff, ← List.count_pos_iff, alike.count_blamed]

/-- Statuses that are alike for a process lead its record the same way. -/
theorem follow (alike : entries.Alike pid entries') (ctx : CycleContext)
    (known : Option ProcessRecord) :
    ProcessRecord.follow ctx pid known entries.snapshots
      = ProcessRecord.follow ctx pid known entries'.snapshots := by
  rw [← follow_snapshotsOf, ← follow_snapshotsOf, alike.readable]

/-- What is reported of a process: the files of its entries, or the files of its record where an
entry was rejected. -/
theorem get?_reportedFiles (alike : entries.Alike pid entries')
    (known : table.get? pid = table'.get? pid) :
    (entries.reportedFiles table).get? pid = (entries'.reportedFiles table').get? pid := by
  by_cases hblamed : pid ∈ entries.blamed
  · have hnames : table.openFileNames pid = table'.openFileNames pid := by
      unfold ProcessTable.openFileNames
      rw [known]
    rw [get?_reportedFiles_of_blamed hblamed,
      get?_reportedFiles_of_blamed (alike.mem_blamed_iff.1 hblamed), hnames]
  · have hblamed' : pid ∉ entries'.blamed := fun h => hblamed (alike.mem_blamed_iff.2 h)
    rw [Entries.get?_reportedFiles, Entries.get?_reportedFiles,
      last?_assumed_of_not_blamed hblamed, last?_assumed_of_not_blamed hblamed', last?_readable,
      last?_readable, alike.readable]

end Alike

end Entries

/-! ## One process in two cycles

Two runs may differ in all but one process. What they have in common is its record, the master
process, the number of the cycle and its entries, and the record after the cycle depends on nothing
else, unless the process is culled with another one. -/

namespace ProcessRecord

/-- Of what a status reports only the part about a process counts for its record. -/
theorem settle_congr {p : ProcessRecord} {reported reported' : ReportedFiles}
    (h : reported.get? p.pid = reported'.get? p.pid) : p.settle reported = p.settle reported' := by
  have hclosing : p.isClosing reported = p.isClosing reported' := by
    funext file
    unfold isClosing
    rw [h]
  rw [settle_eq, settle_eq, hclosing, SortedMap.contains, SortedMap.contains, h]

end ProcessRecord

namespace Tracker

variable {t t' : Tracker} {settings : Settings} {entries entries' : Entries} {pid : Pid}

/-- The context of a cycle is the master process, the number of the cycle and the settings. -/
theorem context_congr (master : t.masterPid = t'.masterPid) (cycles : t.cycles = t'.cycles)
    (settings : Settings) : t.context settings = t'.context settings := by
  unfold context
  rw [master, cycles]

/-- Within a cycle the process has the same record for both. -/
theorem get?_joined_congr (known : t.process? pid = t'.process? pid)
    (master : t.masterPid = t'.masterPid) (cycles : t.cycles = t'.cycles)
    (alike : entries.Alike pid entries') (settings : Settings) :
    (t.joined settings entries).get? pid = (t'.joined settings entries').get? pid := by
  rw [get?_joined, get?_joined, known, context_congr master cycles, alike.follow]

/-- A cycle does to a process what the record and the entries of this process say, whatever is known
and reported of any other one. In two cycles of the same number, with the same master process, that
start from the same record of a process and have the same entries of it, the process has the same
record afterwards, unless one of them culls it; it stops and its files are closed in both or in
neither; and equally many of its entries are skipped. -/
theorem isolated_apply {events events' : List Event}
    (known : (after events).process? pid = (after events').process? pid)
    (master : (after events).masterPid = (after events').masterPid)
    (cycles : (after events).cycles = (after events').cycles)
    (alike : entries.Alike pid entries') (settings : Settings) :
    (∀ p p', ((after events).apply settings entries).1.process? pid = some p →
      ((after events').apply settings entries').1.process? pid = some p' → p = p') ∧
    (pid ∈ ((after events).apply settings entries).2.1.changes.stopped ↔
      pid ∈ ((after events').apply settings entries').2.1.changes.stopped) ∧
    (∀ name, (pid, name) ∈ ((after events).apply settings entries).2.1.changes.closedFiles ↔
      (pid, name) ∈ ((after events').apply settings entries').2.1.changes.closedFiles) ∧
    ((after events).apply settings entries).2.1.skipped.count pid
      = ((after events').apply settings entries').2.1.skipped.count pid := by
  -- all four parts are told by the record within the cycle and by what the status reports
  have hplaced := placed_joined (placed_after events) settings entries
  have hplaced' := placed_joined (placed_after events') settings entries'
  have hjoined := get?_joined_congr known master cycles alike settings
  have hreported : (entries.reportedFiles (after events).processes).get? pid
      = (entries'.reportedFiles (after events').processes).get? pid :=
    alike.get?_reportedFiles known
  refine ⟨?_, ?_, ?_, ?_⟩
  · intro p p' hp hp'
    obtain ⟨joined, hget, rfl⟩ := joined_of_process?_apply _ settings entries hp
    obtain ⟨joined', hget', rfl⟩ := joined_of_process?_apply _ settings entries' hp'
    rw [← hjoined, hget] at hget'
    cases hget'
    refine ProcessRecord.settle_congr ?_
    rw [(hplaced pid joined hget).pid_eq]
    exact hreported
  · rw [stopped_apply, stopped_apply, ProcessTable.mem_stopping_iff hplaced.keyed,
      ProcessTable.mem_stopping_iff hplaced'.keyed, ProcessTable.Runs, ProcessTable.Runs, hjoined,
      hreported]
  · intro name
    rw [closedFiles_apply, closedFiles_apply, ProcessTable.mem_closing_iff hplaced,
      ProcessTable.mem_closing_iff hplaced', ProcessTable.HasOpen, ProcessTable.HasOpen, hjoined,
      hreported]
  · rw [count_skipped_apply, count_skipped_apply, known, context_congr master cycles,
      alike.follow, alike.count_blamed]

/-- A run with a process that has a file open beside another process, and a status that closes the
file behind an entry of the other one. -/
def beside (pid : String) (first second : Json) : List Event × Entries :=
  ([.applied .default (.ofStatus (.byPid
      [("1", .object [("x", .bool true), ("open_files", .object [("/log", .object [])])]),
       (pid, first)]))],
    .ofStatus (.byPid [(pid, second), ("1", .object [("x", .bool false)])]))

/-- The other process clashes with its record. -/
def besideClash : List Event × Entries :=
  beside "2" (.object [("y", .array [])]) (.object [("y", .bool true)])

/-- The other process has an entry that cannot be read. -/
def besideNoise : List Event × Entries := beside "3" (.object []) .null

/-- The same entry of process 1 beside a clash and beside noise: both close its file. -/
theorem isolated_apply_beside :
    (after besideClash.1).process? 1 = (after besideNoise.1).process? 1 ∧
      besideClash.2.Alike 1 besideNoise.2 ∧
      (∃ p, ((after besideClash.1).apply .default besideClash.2).1.process? 1 = some p ∧
        ((after besideNoise.1).apply .default besideNoise.2).1.process? 1 = some p) ∧
      (1, "/log") ∈
        ((after besideClash.1).apply .default besideClash.2).2.1.changes.closedFiles ∧
      (1, "/log") ∈
        ((after besideNoise.1).apply .default besideNoise.2).2.1.changes.closedFiles := by
  have known : (after besideClash.1).process? 1 = (after besideNoise.1).process? 1 := by rfl
  have alike : besideClash.2.Alike 1 besideNoise.2 := ⟨by rfl, by rfl⟩
  obtain ⟨hsame, _, hclosed, _⟩ := isolated_apply known (by rfl) (by rfl) alike .default
  -- the process is tracked after both cycles, and the one record is the other
  have htracked :
      (((after besideClash.1).apply .default besideClash.2).1.process? 1).isSome = true := by
    decide
  have htracked' :
      (((after besideNoise.1).apply .default besideNoise.2).1.process? 1).isSome = true := by
    decide
  obtain ⟨p, hp⟩ := Option.isSome_iff_exists.1 htracked
  obtain ⟨p', hp'⟩ := Option.isSome_iff_exists.1 htracked'
  obtain rfl : p = p' := hsame p p' hp hp'
  have hlog : (1, "/log") ∈
      ((after besideClash.1).apply .default besideClash.2).2.1.changes.closedFiles := by
    decide
  exact ⟨known, alike, ⟨p, hp, hp'⟩, hlog, (hclosed "/log").1 hlog⟩

end Tracker

/-! ## A status in another order -/

namespace Entries

variable {entries entries' : Entries}

/-- Of at most one item there is no other order. -/
theorem eq_of_perm_of_length_le_one {α : Type} {items items' : List α} (h : items.Perm items')
    (short : items.length ≤ 1) : items = items' := by
  match items, short with
  | [], _ => exact h.nil_eq
  | [a], _ => exact (List.perm_singleton.1 h.symm).symm

/-- Where no process has two entries, the entries of one process are in the same order, whatever the
order of the status. -/
theorem alike_of_perm (snapshots : entries.snapshots.Perm entries'.snapshots)
    (rejected : entries.rejected.Perm entries'.rejected) (once : entries.pids.Nodup) (pid : Pid) :
    entries.Alike pid entries' := by
  have hcount : entries.pids.count pid ≤ 1 := List.nodup_iff_count.1 once pid
  have hsum : entries.pids.count pid
      = (entries.snapshotsOf pid).length + (entries.rejectedOf pid).length := by
    rw [pids, List.count_append, length_snapshotsOf, length_rejectedOf]
  constructor
  · refine eq_of_perm_of_length_le_one (snapshots.filter _) ?_
    show (entries.snapshotsOf pid).length ≤ 1
    omega
  · refine eq_of_perm_of_length_le_one (rejected.filter _) ?_
    show (entries.rejectedOf pid).length ≤ 1
    omega

end Entries

namespace Tracker

variable {settings : Settings} {entries entries' : Entries}

/-- Statuses that are alike for every process leave the same table. -/
theorem reconciled_congr {t : Tracker} (alike : ∀ pid, entries.Alike pid entries')
    (settings : Settings) : t.reconciled settings entries = t.reconciled settings entries' := by
  have hjoined : t.joined settings entries = t.joined settings entries' :=
    SortedMap.ext_get? fun pid => get?_joined_congr rfl rfl rfl (alike pid) settings
  have hreported : entries.reportedFiles t.processes = entries'.reportedFiles t.processes :=
    SortedMap.ext_get? fun pid => (alike pid).get?_reportedFiles rfl
  unfold reconciled
  rw [hjoined, hreported]

/-- The order of a status does not matter if no process has two entries in it: in any other order it
leads to the same tracker and to the same report, but for the order in which the skipped processes
are listed. -/
theorem apply_perm (t : Tracker) (settings : Settings)
    (snapshots : entries.snapshots.Perm entries'.snapshots)
    (rejected : entries.rejected.Perm entries'.rejected) (once : entries.pids.Nodup) :
    (t.apply settings entries).1 = (t.apply settings entries').1 ∧
      (t.apply settings entries).2.1 =
        { (t.apply settings entries').2.1 with skipped := (t.apply settings entries).2.1.skipped } ∧
      (t.apply settings entries).2.1.skipped.Perm (t.apply settings entries').2.1.skipped := by
  have alike := Entries.alike_of_perm snapshots rejected once
  have hreconciled : t.reconciled settings entries = t.reconciled settings entries' :=
    reconciled_congr alike settings
  refine ⟨?_, ?_, ?_⟩
  · rw [tracker_apply, tracker_apply, hreconciled]
  · rw [report_apply t settings entries, report_apply t settings entries', hreconciled]
  · refine List.perm_iff_count.2 fun pid => ?_
    rw [count_skipped_apply, count_skipped_apply, (alike pid).follow, (alike pid).count_blamed]

/-- A status in the opposite order. -/
def opposite (entries : Entries) : Entries := ⟨entries.snapshots.reverse, entries.rejected.reverse⟩

/-- A status with an entry that clashes with what is known after `busyRun`, one of a new process and
two that cannot be read. -/
def crowdedStatus : Entries :=
  .ofStatus (.byPid
    [("1", .object [("x", .array [])]), ("2", .object []), ("3", .null), ("4", .bool true)])

/-- The status read backwards skips the same processes in another order, and all else is equal. -/
theorem apply_perm_crowdedStatus :
    crowdedStatus.snapshots.Perm (opposite crowdedStatus).snapshots ∧
      crowdedStatus.rejected.Perm (opposite crowdedStatus).rejected ∧
      crowdedStatus.pids.Nodup ∧
      ((after busyRun).apply forgetful crowdedStatus).2.1.skipped = [3, 4, 1] ∧
      ((after busyRun).apply forgetful (opposite crowdedStatus)).2.1.skipped = [4, 3, 1] ∧
      ((after busyRun).apply forgetful crowdedStatus).1
        = ((after busyRun).apply forgetful (opposite crowdedStatus)).1 ∧
      ((after busyRun).apply forgetful crowdedStatus).2.1 =
        { ((after busyRun).apply forgetful (opposite crowdedStatus)).2.1 with
          skipped := ((after busyRun).apply forgetful crowdedStatus).2.1.skipped } := by
  have snapshots : crowdedStatus.snapshots.Perm (opposite crowdedStatus).snapshots :=
    (List.reverse_perm _).symm
  have rejected : crowdedStatus.rejected.Perm (opposite crowdedStatus).rejected :=
    (List.reverse_perm _).symm
  have once : crowdedStatus.pids.Nodup := by decide
  obtain ⟨htracker, hreport, _⟩ :=
    apply_perm (after busyRun) forgetful snapshots rejected once
  exact ⟨snapshots, rejected, once, by decide, by decide, htracker, hreport⟩

end Tracker

end ProcessWatch

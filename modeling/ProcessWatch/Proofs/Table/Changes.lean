import ProcessWatch.Proofs.Record.Open

/-!
# What the changes of a table tell

What a status leaves out changes three things of a table: which processes it tracks, which of these
run, and which files they have open. The changes that are reported account for all of it: what is
there afterwards is what was there before, without what the changes name.

* **`ProcessTable.Tracks`**, **`Runs`**, **`HasOpen`** — what is looked at.
* **`mem_stopping_iff`**, **`mem_closing_iff`** — what the changes name.
* **`tracks_reconcile`**, **`runs_reconcile`**, **`hasOpen_reconcile`** — the table afterwards.
* **`ascending_stopping`**, **`ascending_closing`**, **`ascending_culled`** — every change is named
  once, in order.
-/

namespace ProcessWatch

namespace ProcessTable

variable {table : ProcessTable} {limit : UInt32} {reported : ReportedFiles} {pid : Pid}
  {name : String}

/-- There is a record of a process. -/
def Tracks (table : ProcessTable) (pid : Pid) : Prop := (table.get? pid).isSome = true

/-- There is a record of a process, and the process runs. -/
def Runs (table : ProcessTable) (pid : Pid) : Prop :=
  ∃ p, table.get? pid = some p ∧ p.isRunning = true

/-- There is a record of a process, with a file of this name open. -/
def HasOpen (table : ProcessTable) (pid : Pid) (name : String) : Prop :=
  ∃ p, table.get? pid = some p ∧ p.HasOpen name

/-! ## What the changes name -/

/-- A process stops exactly if it runs and is not reported. -/
theorem mem_stopping_iff (keyed : table.Keyed) :
    pid ∈ table.stopping reported ↔ table.Runs pid ∧ reported.get? pid = none := by
  have hstopping {p : ProcessRecord} (hp : p.pid = pid) :
      p.isStopping reported = true ↔ p.isRunning = true ∧ reported.get? pid = none := by
    simp [ProcessRecord.isStopping, SortedMap.contains, hp]
  unfold stopping
  constructor
  · intro h
    obtain ⟨p, hp, hpid⟩ := List.mem_map.1 h
    obtain ⟨hmem, hstops⟩ := List.mem_filter.1 hp
    obtain ⟨k, hk⟩ := SortedMap.mem_values_iff.1 hmem
    obtain ⟨hrun, hreported⟩ := (hstopping hpid).1 hstops
    rw [← keyed k p hk, hpid] at hk
    exact ⟨⟨p, hk, hrun⟩, hreported⟩
  · rintro ⟨⟨p, hp, hrun⟩, hreported⟩
    have hpid := keyed pid p hp
    refine List.mem_map.2 ⟨p, List.mem_filter.2 ⟨?_, (hstopping hpid).2 ⟨hrun, hreported⟩⟩, hpid⟩
    exact SortedMap.mem_values_iff.2 ⟨pid, hp⟩

/-- A file is closed exactly if it is open and not listed by what is reported of its process. -/
theorem Labelled.mem_closing_iff (h : table.Labelled) :
    (pid, name) ∈ table.closing reported ↔
      table.HasOpen pid name ∧ ¬ ∃ names, reported.get? pid = some names ∧ name ∈ names := by
  have hclosing {p : ProcessRecord} {file : FileRecord} (hp : p.pid = pid)
      (hname : file.name = name) : p.isClosing reported file = true ↔
        file.isOpen = true ∧ ¬ ∃ names, reported.get? pid = some names ∧ name ∈ names := by
    unfold ProcessRecord.isClosing
    rw [hp, hname]
    cases reported.get? pid <;> simp
  unfold closing
  rw [List.mem_flatMap]
  constructor
  · rintro ⟨p, hp, hmem⟩
    obtain ⟨file, hfile, heq⟩ := List.mem_map.1 hmem
    obtain ⟨hpid, hname⟩ := Prod.mk.inj heq
    obtain ⟨hfile, hcloses⟩ := List.mem_filter.1 hfile
    obtain ⟨hopen, hunlisted⟩ := (hclosing hpid hname).1 hcloses
    -- the record and the file stand under the names that they bear
    obtain ⟨k, hk⟩ := SortedMap.mem_values_iff.1 hp
    obtain ⟨key, hkey⟩ := SortedMap.mem_values_iff.1 hfile
    rw [← (h k p hk).names key file hkey, hname] at hkey
    rw [← (h k p hk).pid_eq, hpid] at hk
    exact ⟨⟨p, hk, file, hkey, hopen⟩, hunlisted⟩
  · rintro ⟨⟨p, hp, file, hfile, hopen⟩, hunlisted⟩
    have hpid := (h pid p hp).pid_eq
    have hname := (h pid p hp).names name file hfile
    refine ⟨p, SortedMap.mem_values_iff.2 ⟨pid, hp⟩, List.mem_map.2 ⟨file, ?_, ?_⟩⟩
    · exact List.mem_filter.2
        ⟨SortedMap.mem_values_iff.2 ⟨name, hfile⟩, (hclosing hpid hname).2 ⟨hopen, hunlisted⟩⟩
    · rw [hpid, hname]

/-- The same for records that are in their places. -/
theorem mem_closing_iff (h : table.Placed) :
    (pid, name) ∈ table.closing reported ↔
      table.HasOpen pid name ∧ ¬ ∃ names, reported.get? pid = some names ∧ name ∈ names :=
  h.labelled.mem_closing_iff

/-! ## The table afterwards -/

/-- A status removes those processes that it culls, and no others. -/
theorem tracks_reconcile :
    (table.reconcile limit reported).1.Tracks pid ↔
      table.Tracks pid ∧ pid ∉ (table.reconcile limit reported).2.culled := by
  show ((table.reconcile limit reported).1.get? pid).isSome = true ↔
    _ ∧ pid ∉ table.culled limit reported
  rw [get?_reconcile]
  by_cases hculled : pid ∈ table.culled limit reported <;> simp [hculled, Tracks]

/-- After a status those processes run that ran before, but for those that stopped and those that
were culled. -/
theorem runs_reconcile (keyed : table.Keyed) :
    (table.reconcile limit reported).1.Runs pid ↔
      table.Runs pid ∧ pid ∉ (table.reconcile limit reported).2.stopped ∧
        pid ∉ (table.reconcile limit reported).2.culled := by
  show (∃ p, (table.reconcile limit reported).1.get? pid = some p ∧ p.isRunning = true) ↔
    _ ∧ pid ∉ table.stopping reported ∧ pid ∉ table.culled limit reported
  rw [get?_reconcile, mem_stopping_iff keyed]
  by_cases hculled : pid ∈ table.culled limit reported
  · simp [hculled]
  · -- the record stays, and it is settled
    rw [if_neg hculled]
    constructor
    · rintro ⟨p', hp', hrun⟩
      obtain ⟨p, hp, rfl⟩ := Option.map_eq_some_iff.1 hp'
      rw [ProcessRecord.settle_isRunning, keyed pid p hp, Bool.and_eq_true] at hrun
      obtain ⟨hwas, hreported⟩ := hrun
      refine ⟨⟨p, hp, hwas⟩, ?_, hculled⟩
      rintro ⟨_, hnone⟩
      rw [SortedMap.contains, hnone] at hreported
      cases hreported
    · rintro ⟨⟨p, hp, hrun⟩, hkept, _⟩
      refine ⟨p.settle reported, by rw [hp]; rfl, ?_⟩
      rw [ProcessRecord.settle_isRunning, hrun, keyed pid p hp, Bool.true_and, SortedMap.contains,
        ← Option.ne_none_iff_isSome]
      exact fun hnone => hkept ⟨⟨p, hp, hrun⟩, hnone⟩

/-- And those files are open that were open before, but for the closed ones and those of culled
processes. -/
theorem hasOpen_reconcile (h : table.Placed) :
    (table.reconcile limit reported).1.HasOpen pid name ↔
      table.HasOpen pid name ∧ (pid, name) ∉ (table.reconcile limit reported).2.closedFiles ∧
        pid ∉ (table.reconcile limit reported).2.culled := by
  show (∃ p, (table.reconcile limit reported).1.get? pid = some p ∧ p.HasOpen name) ↔
    _ ∧ (pid, name) ∉ table.closing reported ∧ pid ∉ table.culled limit reported
  rw [get?_reconcile, mem_closing_iff h]
  -- nothing is left of what was culled; of the rest a file stays open unless it was closed
  by_cases hculled : pid ∈ table.culled limit reported
  · simp [hculled]
  · rw [if_neg hculled]
    constructor
    · rintro ⟨p', hp', hopen⟩
      obtain ⟨p, hp, rfl⟩ := Option.map_eq_some_iff.1 hp'
      obtain ⟨hwas, hlisted⟩ := (ProcessRecord.hasOpen_settle (h pid p hp) reported).1 hopen
      exact ⟨⟨p, hp, hwas⟩, fun hclosed => hclosed.2 hlisted, hculled⟩
    · rintro ⟨⟨p, hp, hopen⟩, hkept, _⟩
      refine ⟨p.settle reported, by rw [hp]; rfl, ?_⟩
      refine (ProcessRecord.hasOpen_settle (h pid p hp) reported).2 ⟨hopen, ?_⟩
      exact Decidable.not_not.1 fun hunlisted => hkept ⟨⟨p, hp, hopen⟩, hunlisted⟩

/-! ## The order of the changes -/

/-- The records stand in the order of their pids. -/
theorem ascending_pids (table : ProcessTable) : table.keys.Pairwise (· < ·) :=
  (SortedMap.ascending_keys table).imp Std.compare_eq_lt.1

/-- So the processes that stop are told in that order. -/
theorem ascending_stopping (keyed : table.Keyed) (reported : ReportedFiles) :
    (table.stopping reported).Pairwise (· < ·) := by
  have hsub : (table.stopping reported).Sublist table.keys := by
    rw [← SortedMap.map_values_eq_keys keyed]
    exact List.filter_sublist.map _
  exact (ascending_pids table).sublist hsub

/-- And so are those that are culled. -/
theorem ascending_culled (table : ProcessTable) (limit : UInt32) (reported : ReportedFiles) :
    (table.culled limit reported).Pairwise (· < ·) :=
  (ascending_pids _).sublist List.filter_sublist

/-- Files are named by process and then by name. -/
theorem Labelled.ascending_closing (h : table.Labelled) (reported : ReportedFiles) :
    (table.closing reported).Pairwise fun a b => a.1 < b.1 ∨ a.1 = b.1 ∧ a.2 < b.2 := by
  unfold closing
  refine List.pairwise_flatMap.2 ⟨?_, ?_⟩
  · -- within a process the files come in the order of their names
    intro p hp
    obtain ⟨pid, hpid⟩ := SortedMap.mem_values_iff.1 hp
    have hascending : (p.files.values.map (·.name)).Pairwise (· < ·) := by
      rw [SortedMap.map_values_eq_keys fun key file hfile =>
        (h pid p hpid).names key file hfile]
      exact (SortedMap.ascending_keys p.files).imp compareOfLessAndEq_eq_lt.1
    have hclosing :
        ((p.files.values.filter (p.isClosing reported)).map (·.name)).Pairwise (· < ·) :=
      hascending.sublist (List.filter_sublist.map _)
    refine List.pairwise_map.2 ((List.pairwise_map.1 hclosing).imp ?_)
    intro a b hlt
    exact .inr ⟨rfl, hlt⟩
  · -- and the files of two processes in the order of their pids
    have hascending : (table.values.map (·.pid)).Pairwise (· < ·) := by
      rw [SortedMap.map_values_eq_keys h.keyed]
      exact ascending_pids table
    refine (List.pairwise_map.1 hascending).imp ?_
    intro p q hlt x hx y hy
    obtain ⟨_, _, rfl⟩ := List.mem_map.1 hx
    obtain ⟨_, _, rfl⟩ := List.mem_map.1 hy
    exact .inl hlt

/-- The files that are closed are told in the order of their pids, and of their names within a
process. -/
theorem ascending_closing (h : table.Placed) (reported : ReportedFiles) :
    (table.closing reported).Pairwise fun a b => a.1 < b.1 ∨ a.1 = b.1 ∧ a.2 < b.2 :=
  h.labelled.ascending_closing reported

end ProcessTable

end ProcessWatch

import ProcessWatch.Proofs.Order.SortedMap
import ProcessWatch.Table.Liveness

/-!
# What a status leaves out, record by record

The passes over a table that follow the merging of a status, as what they do to one record.

* **`ProcessRecord.settle_eq`** — all that the passes change in a record that stays;
  `settle_of_not_reported` and `settle_of_reported` for a process without and with an entry.
* **`ProcessTable.get?_reconcile`** — a record is settled, or it is culled.
* **`ProcessTable.Descends`** — one process comes from another through tracked parents. What is
  culled has expired or descends from what has (`expired_or_descends_of_culled`).
-/

namespace ProcessWatch

/-! ## One record -/

namespace FileRecord

@[simp] theorem close_close (file : FileRecord) : file.close.close = file.close := rfl

theorem close_of_closed {file : FileRecord} (h : file.isOpen = false) : file.close = file := by
  unfold close
  rw [← h]

end FileRecord

namespace ProcessRecord

/-- The age of a process one cycle later, if it does not run. -/
def nextAge (p : ProcessRecord) : UInt32 :=
  match p.age with
  | some age => age + 1
  | none => 1

/-- An age that is not the greatest one does not start again at zero. -/
theorem toNat_succ_age {age : UInt32} (h : age < 4294967295) :
    (age + 1).toNat = age.toNat + 1 := by
  have hlt : age.toNat < 4294967295 := UInt32.lt_iff_toNat_lt.1 h
  rw [UInt32.toNat_add]
  show (age.toNat + 1) % 4294967296 = age.toNat + 1
  omega

/-- A process keeps running if it is among the reported ones. -/
theorem stopUnreported_eq (reported : ReportedFiles) (p : ProcessRecord) :
    p.stopUnreported reported
      = { p with isRunning := p.isRunning && reported.contains p.pid } := by
  obtain ⟨pid, parent, isMaster, isRunning, age, time, attributes, history, files⟩ := p
  unfold stopUnreported isStopping
  cases isRunning with
  | false => rfl
  | true => cases reported.contains pid <;> simp

/-- Only what does not run grows older. -/
theorem grow_eq (p : ProcessRecord) :
    p.grow = { p with age := if p.isRunning then p.age else some p.nextAge } := by
  obtain ⟨pid, parent, isMaster, isRunning, age, time, attributes, history, files⟩ := p
  cases isRunning <;> rfl

/-- All that a status changes by leaving something out. -/
theorem settle_eq (reported : ReportedFiles) (p : ProcessRecord) :
    p.settle reported =
      { p with
        isRunning := p.isRunning && reported.contains p.pid
        age := if p.isRunning && reported.contains p.pid then p.age else some p.nextAge
        files := p.files.mapValues fun file =>
          if p.isClosing reported file then file.close else file } := by
  unfold settle
  rw [stopUnreported_eq, grow_eq]
  rfl

@[simp] theorem settle_pid (reported : ReportedFiles) (p : ProcessRecord) :
    (p.settle reported).pid = p.pid := by
  rw [settle_eq]

/-- After settling exactly the running processes among the reported ones run. -/
@[simp] theorem settle_isRunning (reported : ReportedFiles) (p : ProcessRecord) :
    (p.settle reported).isRunning = (p.isRunning && reported.contains p.pid) := by
  rw [settle_eq]

/-- The ages of these stay, and all the others grow by one. -/
theorem settle_age (reported : ReportedFiles) (p : ProcessRecord) :
    (p.settle reported).age =
      if p.isRunning && reported.contains p.pid then p.age else some p.nextAge := by
  rw [settle_eq]

@[simp] theorem settle_time (reported : ReportedFiles) (p : ProcessRecord) :
    (p.settle reported).time = p.time := by
  rw [settle_eq]

@[simp] theorem settle_history (reported : ReportedFiles) (p : ProcessRecord) :
    (p.settle reported).history = p.history := by
  rw [settle_eq]

@[simp] theorem settle_parent (reported : ReportedFiles) (p : ProcessRecord) :
    (p.settle reported).parent = p.parent := by
  rw [settle_eq]

/-- A process that is not reported closes all its open files. -/
theorem isClosing_of_not_reported {reported : ReportedFiles} {p : ProcessRecord}
    (h : reported.get? p.pid = none) (file : FileRecord) :
    p.isClosing reported file = file.isOpen := by
  unfold isClosing
  rw [h, Bool.and_true]

theorem isClosing_of_closed {file : FileRecord} (h : file.isOpen = false)
    (reported : ReportedFiles) (p : ProcessRecord) : p.isClosing reported file = false := by
  unfold isClosing
  rw [h, Bool.false_and]

/-- A file whose name is reported stays as it is, and any other one is closed. -/
theorem isClosing_of_reported {reported : ReportedFiles} {p : ProcessRecord} {names : List String}
    (h : reported.get? p.pid = some names) (file : FileRecord) :
    p.isClosing reported file = (file.isOpen && !names.contains file.name) := by
  unfold isClosing
  rw [h]

/-- A file that a status leaves out may be closed, and nothing else of it changes. -/
theorem closeUnreported_file_eq (reported : ReportedFiles) (p : ProcessRecord) (file : FileRecord) :
    (if p.isClosing reported file then file.close else file)
      = { file with isOpen := file.isOpen && !p.isClosing reported file } := by
  obtain ⟨name, isOpen, descriptors⟩ := file
  cases isOpen with
  | false => rw [isClosing_of_closed rfl]; rfl
  | true => cases p.isClosing reported ⟨name, true, descriptors⟩ <;> rfl

/-- A file after a status is one of before, which may have been closed. -/
theorem of_get?_files_settle {reported : ReportedFiles} {p : ProcessRecord} {name : String}
    {file : FileRecord} (h : (p.settle reported).files.get? name = some file) :
    ∃ before, p.files.get? name = some before ∧
      file = { before with isOpen := before.isOpen && !p.isClosing reported before } := by
  rw [settle_eq, SortedMap.get?_mapValues] at h
  obtain ⟨before, hbefore, rfl⟩ := Option.map_eq_some_iff.1 h
  exact ⟨before, hbefore, closeUnreported_file_eq reported p before⟩

/-- A process that is not reported stops, with all its files closed. -/
theorem settle_of_not_reported {reported : ReportedFiles} {p : ProcessRecord}
    (h : reported.get? p.pid = none) :
    p.settle reported =
      { p with
        isRunning := false
        age := some p.nextAge
        files := p.files.mapValues FileRecord.close } := by
  have hcontains : reported.contains p.pid = false := by
    unfold SortedMap.contains
    rw [h]
    rfl
  have hclose : (fun file => if p.isClosing reported file then file.close else file)
      = FileRecord.close := by
    funext file
    rw [isClosing_of_not_reported h]
    cases hopen : file.isOpen with
    | true => rfl
    | false => exact (FileRecord.close_of_closed hopen).symm
  rw [settle_eq, hclose, hcontains, Bool.and_false]
  rfl

/-- A process that runs and is reported goes on running; only files may be closed. -/
theorem settle_of_reported {reported : ReportedFiles} {p : ProcessRecord} {names : List String}
    (running : p.isRunning = true) (h : reported.get? p.pid = some names) :
    p.settle reported = p.closeUnreported reported := by
  have hcontains : reported.contains p.pid = true := by
    unfold SortedMap.contains
    rw [h]
    rfl
  have hstop : p.stopUnreported reported = p := by
    unfold stopUnreported isStopping
    rw [hcontains, Bool.not_true, Bool.and_false]
    rfl
  have hrunning : (p.closeUnreported reported).isRunning = true := running
  unfold settle
  rw [hstop, grow, if_pos hrunning]

/-- The open files of a process are the files among its records that are open. -/
theorem mem_openFiles_iff {p : ProcessRecord} {file : FileRecord} :
    file ∈ p.openFiles ↔ (∃ name, p.files.get? name = some file) ∧ file.isOpen = true := by
  rw [openFiles, List.mem_filter, SortedMap.mem_values_iff]

/-- Nothing is closed exactly if all open files are reported. -/
theorem closeUnreported_eq_self_iff {reported : ReportedFiles} {p : ProcessRecord}
    {names : List String} (h : reported.get? p.pid = some names) :
    p.closeUnreported reported = p ↔ ∀ file ∈ p.openFiles, file.name ∈ names := by
  constructor
  · intro hsame file hfile
    obtain ⟨⟨name, hget⟩, hopen⟩ := mem_openFiles_iff.1 hfile
    have hfiles : (p.closeUnreported reported).files.get? name = some file := by
      rw [hsame, hget]
    unfold closeUnreported at hfiles
    rw [SortedMap.get?_mapValues, hget, Option.map_some, isClosing_of_reported h, hopen,
      Bool.true_and] at hfiles
    -- an open file that is not listed would be closed, and not the same any more
    cases hlisted : names.contains file.name with
    | true => exact List.contains_iff_mem.1 hlisted
    | false =>
      rw [hlisted] at hfiles
      have hclosed : file.close = file := Option.some.inj hfiles
      rw [← hclosed] at hopen
      cases hopen
  · intro hlisted
    have hfiles : (p.files.mapValues fun file =>
        if p.isClosing reported file then file.close else file) = p.files := by
      apply SortedMap.ext_get?
      intro name
      rw [SortedMap.get?_mapValues]
      cases hget : p.files.get? name with
      | none => rfl
      | some file =>
        rw [Option.map_some, isClosing_of_reported h]
        cases hopen : file.isOpen with
        | false => rfl
        | true =>
          have hmem : file ∈ p.openFiles := mem_openFiles_iff.2 ⟨⟨name, hget⟩, hopen⟩
          rw [List.contains_iff_mem.2 (hlisted file hmem)]
          rfl
    unfold closeUnreported
    rw [hfiles]

end ProcessRecord

/-! ## Families -/

namespace ProcessTable

/-- Every record stands under its own pid. -/
def Keyed (table : ProcessTable) : Prop := ∀ pid p, table.get? pid = some p → p.pid = pid

/-- A process comes from another one: some steps, one at least, from it to its parent, the parent of
that, and so on lead to the other. -/
inductive Descends (table : ProcessTable) : Pid → Pid → Prop where
  | child {pid parent : Pid} (h : table.parent? pid = some parent) : Descends table pid parent
  | step {pid parent ancestor : Pid} (h : table.parent? pid = some parent)
      (rest : Descends table parent ancestor) : Descends table pid ancestor

/-- A walk along parents that arrives has started at a root or below one. -/
theorem root_or_descends_of_leadsTo {table : ProcessTable} {roots : List Pid} {steps : Nat}
    {pid : Pid} (h : table.leadsTo roots steps pid = true) :
    pid ∈ roots ∨ ∃ root ∈ roots, table.Descends pid root := by
  -- the steps go up from the process, so the induction is on how many there are
  induction steps generalizing pid with
  | zero => exact .inl (List.contains_iff_mem.1 h)
  | succ steps ih =>
    rw [leadsTo, Bool.or_eq_true] at h
    rcases h with hroot | hparent
    · exact .inl (List.contains_iff_mem.1 hroot)
    · cases hp : table.parent? pid with
      | none =>
        rw [hp] at hparent
        cases hparent
      | some parent =>
        rw [hp] at hparent
        rcases ih hparent with hroot | ⟨root, hroot, hdescends⟩
        · exact .inr ⟨parent, hroot, .child hp⟩
        · exact .inr ⟨root, hroot, .step hp hdescends⟩

/-- A root leads to the roots without any step. -/
theorem leadsTo_of_mem {table : ProcessTable} {roots : List Pid} {pid : Pid} (h : pid ∈ roots)
    (steps : Nat) : table.leadsTo roots steps pid = true := by
  have hcontains : roots.contains pid = true := List.contains_iff_mem.2 h
  cases steps with
  | zero => exact hcontains
  | succ steps => rw [leadsTo, hcontains, Bool.true_or]

theorem leadsTo_nil (table : ProcessTable) (steps : Nat) (pid : Pid) :
    table.leadsTo [] steps pid = false := by
  induction steps generalizing pid with
  | zero => rfl
  | succ steps ih =>
    rw [leadsTo]
    cases table.parent? pid with
    | none => rfl
    | some parent => exact ih parent

theorem mem_expired_iff {table : ProcessTable} (keyed : table.Keyed) {limit : UInt32} {pid : Pid} :
    pid ∈ table.expired limit ↔ ∃ p, table.get? pid = some p ∧ p.isExpired limit = true := by
  unfold expired
  constructor
  · intro h
    obtain ⟨p, hp, rfl⟩ := List.mem_map.1 h
    obtain ⟨hmem, hexpired⟩ := List.mem_filter.1 hp
    obtain ⟨k, hk⟩ := SortedMap.mem_values_iff.1 hmem
    rw [keyed k p hk]
    exact ⟨p, hk, hexpired⟩
  · rintro ⟨p, hp, hexpired⟩
    refine List.mem_map.2 ⟨p, List.mem_filter.2 ⟨?_, hexpired⟩, keyed pid p hp⟩
    exact SortedMap.mem_values_iff.2 ⟨pid, hp⟩

/-! ## The table -/

/-- The table as the passes leave it before the expired families are removed. -/
def settled (table : ProcessTable) (reported : ReportedFiles) : ProcessTable :=
  table.mapValues (·.settle reported)

/-- The processes that a status removes. -/
def culled (table : ProcessTable) (limit : UInt32) (reported : ReportedFiles) : List Pid :=
  (table.settled reported).family ((table.settled reported).expired limit)

theorem get?_settled (table : ProcessTable) (reported : ReportedFiles) (pid : Pid) :
    (table.settled reported).get? pid = (table.get? pid).map (·.settle reported) :=
  SortedMap.get?_mapValues _ table pid

/-- Settling keeps every record at its pid. -/
theorem Keyed.settled {table : ProcessTable} (h : table.Keyed) (reported : ReportedFiles) :
    (table.settled reported).Keyed := by
  intro pid p hp
  rw [get?_settled] at hp
  obtain ⟨before, hbefore, rfl⟩ := Option.map_eq_some_iff.1 hp
  rw [ProcessRecord.settle_pid]
  exact h pid before hbefore

/-- A record is settled, unless it is culled. -/
theorem get?_reconcile (table : ProcessTable) (limit : UInt32) (reported : ReportedFiles)
    (pid : Pid) :
    (table.reconcile limit reported).1.get? pid =
      if pid ∈ table.culled limit reported then none
      else (table.get? pid).map (·.settle reported) := by
  have hfilter : (table.reconcile limit reported).1.get? pid =
      ((table.settled reported).get? pid).filter fun _ =>
        !(table.culled limit reported).contains pid :=
    SortedMap.get?_filter _ (table.settled reported) pid
  rw [hfilter, get?_settled]
  -- what is culled is filtered out, and nothing else is
  by_cases h : pid ∈ table.culled limit reported
  · rw [if_pos h, List.contains_iff_mem.2 h]
    cases table.get? pid <;> rfl
  · have hcontains : (table.culled limit reported).contains pid = false := by
      rw [← Bool.not_eq_true, List.contains_iff_mem]
      exact h
    rw [if_neg h, hcontains]
    cases table.get? pid <;> rfl

/-- What has expired is culled. -/
theorem mem_culled_of_expired {table : ProcessTable} {limit : UInt32} {reported : ReportedFiles}
    (keyed : table.Keyed) {pid : Pid} (h : pid ∈ (table.settled reported).expired limit) :
    pid ∈ table.culled limit reported := by
  obtain ⟨p, hp, _⟩ := (mem_expired_iff (keyed.settled reported)).1 h
  exact List.mem_filter.2 ⟨SortedMap.mem_keys_of_get? hp, leadsTo_of_mem h _⟩

/-- What is culled has expired, or descends from what has. -/
theorem expired_or_descends_of_culled {table : ProcessTable} {limit : UInt32}
    {reported : ReportedFiles} {pid : Pid} (h : pid ∈ table.culled limit reported) :
    pid ∈ (table.settled reported).expired limit ∨
      ∃ root ∈ (table.settled reported).expired limit,
        (table.settled reported).Descends pid root :=
  root_or_descends_of_leadsTo (List.mem_filter.1 h).2

/-- Where nothing has expired nothing is culled. -/
theorem culled_eq_nil {table : ProcessTable} {limit : UInt32} {reported : ReportedFiles}
    (h : (table.settled reported).expired limit = []) : table.culled limit reported = [] := by
  unfold culled family
  rw [h, List.filter_eq_nil_iff]
  intro pid _
  rw [leadsTo_nil]
  exact Bool.false_ne_true

end ProcessTable

end ProcessWatch

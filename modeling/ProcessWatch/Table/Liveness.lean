import ProcessWatch.Table.Family

/-!
# What a status leaves out

A process that a status leaves out has stopped, and an open file that it leaves out was closed. A
stopped process gets older with every status; past a threshold it is removed from the table, and
with it its family.
-/

namespace ProcessWatch

/-- The names of the open files of every process that a status reports. -/
abbrev ReportedFiles := SortedMap Pid (List String)

/-- What changed because a status left it out. -/
structure Changes where
  /-- Processes that ran before. -/
  stopped : List Pid
  /-- Files that were open before, each with its process. -/
  closedFiles : List (Pid × String)
  /-- Processes that were removed from the table. -/
  culled : List Pid
deriving Repr, DecidableEq

namespace ProcessRecord

/-- Whether a process runs that is not reported. -/
def isStopping (reported : ReportedFiles) (p : ProcessRecord) : Bool :=
  p.isRunning && !reported.contains p.pid

/-- Whether a file of a process is open that is not reported. -/
def isClosing (reported : ReportedFiles) (p : ProcessRecord) (file : FileRecord) : Bool :=
  file.isOpen &&
    match reported.get? p.pid with
    | some names => !names.contains file.name
    | none => true

/-- The process after it stopped, if it did. -/
def stopUnreported (reported : ReportedFiles) (p : ProcessRecord) : ProcessRecord :=
  if p.isStopping reported then { p with isRunning := false } else p

/-- The process with the files closed that are not reported. -/
def closeUnreported (reported : ReportedFiles) (p : ProcessRecord) : ProcessRecord :=
  { p with files := p.files.mapValues fun file =>
      if p.isClosing reported file then file.close else file }

/-- The process one cycle older, if it does not run. -/
def grow (p : ProcessRecord) : ProcessRecord :=
  if p.isRunning then p
  -- the status that stops a process is the first one it has been stopped for
  else { p with age := some (match p.age with | some age => age + 1 | none => 1) }

/-- The process as a status leaves it that was merged before. -/
def settle (reported : ReportedFiles) (p : ProcessRecord) : ProcessRecord :=
  ((p.stopUnreported reported).closeUnreported reported).grow

/-- Whether a process has been stopped for more than `keepDeadFor` cycles. -/
def isExpired (keepDeadFor : UInt32) (p : ProcessRecord) : Bool :=
  !p.isRunning &&
    match p.age with
    | some age => keepDeadFor < age
    | none => false

end ProcessRecord

namespace ProcessTable

/-- The processes that run and are not reported. -/
def stopping (table : ProcessTable) (reported : ReportedFiles) : List Pid :=
  (table.values.filter (·.isStopping reported)).map (·.pid)

/-- The open files that are not reported. -/
def closing (table : ProcessTable) (reported : ReportedFiles) : List (Pid × String) :=
  table.values.flatMap fun p =>
    (p.files.values.filter (p.isClosing reported)).map fun file => (p.pid, file.name)

/-- The processes that have been stopped for too long. -/
def expired (table : ProcessTable) (keepDeadFor : UInt32) : List Pid :=
  (table.values.filter (·.isExpired keepDeadFor)).map (·.pid)

/-- Brings a table, into which a status was merged, in line with what that status leaves out. -/
def reconcile (table : ProcessTable) (keepDeadFor : UInt32) (reported : ReportedFiles) :
    ProcessTable × Changes :=
  let settled : ProcessTable := table.mapValues (·.settle reported)
  let culled := settled.family (settled.expired keepDeadFor)
  -- what stops and what is closed shows before the table is settled, what expires after that
  (settled.filter fun pid _ => !culled.contains pid,
    ⟨table.stopping reported, table.closing reported, culled⟩)

end ProcessTable

end ProcessWatch

import ProcessWatch.Tracker

/-!
# Filling snapshots with identities

A status does not always say who the parent of a process is. Where neither it nor the table knows,
the identity of the process is asked for, and what the answer tells fills the gaps of the snapshot.
Every answer goes to the snapshot that it was asked for; that of the master process is known.
-/

namespace ProcessWatch

namespace ProcessSnapshot

/-- The snapshot with its gaps filled by an identity: the parent, then the command line and the
working directory at the end of the fields. -/
def withIdentity (s : ProcessSnapshot) (identity : Identity) : ProcessSnapshot :=
  -- a report that there is no parent is as much a gap as none at all
  let parent := match s.parent.value?, identity.parent with
    | none, some parent => .value parent
    | _, _ => s.parent
  let fields := match identity.cmdline with
    | some cmdline => Fields.setIfAbsent "cmdline" cmdline s.fields
    | none => s.fields
  let fields := match identity.workingDirectory with
    | some directory => Fields.setIfAbsent "working_directory" (.string directory) fields
    | none => fields
  { s with parent, fields }

end ProcessSnapshot

namespace Tracker

/-- The pid of a snapshot whose parent neither it nor the table knows. -/
def orphan? (t : Tracker) (s : ProcessSnapshot) : Option Pid :=
  match s.pid, s.parent.value? with
  | some pid, none => if t.needsIdentity pid then some pid else none
  | _, _ => none

/-- The pid to ask for on behalf of a snapshot. The master process need not be asked for. -/
def request? (t : Tracker) (s : ProcessSnapshot) : Option Pid :=
  (t.orphan? s).filter fun pid => t.masterPid != some pid

/-- The pids to ask for, in the order of the snapshots. -/
def requests (t : Tracker) (snapshots : List ProcessSnapshot) : List Pid :=
  snapshots.filterMap t.request?

/-- Fills a snapshot of the master process with what is known of it. -/
def fillMaster (t : Tracker) (s : ProcessSnapshot) : ProcessSnapshot :=
  match t.orphan? s, t.master with
  | some pid, some master => if master.pid = pid then s.withIdentity master else s
  | _, _ => s

/-- Fills a snapshot with the answer to its request, if that did not fail. -/
def fillAnswer (s : ProcessSnapshot) : Except Failure Identity → ProcessSnapshot
  | .ok identity => s.withIdentity identity
  | .error _ => s

/-- Fills snapshots with the answers to their requests, which come in the order of `requests`. -/
def enrich (t : Tracker) : List ProcessSnapshot → List (Except Failure Identity) →
    List ProcessSnapshot
  | [], _ => []
  | s :: rest, answers =>
    match t.request? s, answers with
    | some _, answer :: answers => fillAnswer s answer :: t.enrich rest answers
    | some _, [] => s :: t.enrich rest []
    | none, answers => t.fillMaster s :: t.enrich rest answers

/-- What is told about requests that failed. -/
def identityNotices (requests : List Pid) (answers : List (Except Failure Identity)) :
    List Notice :=
  (requests.zip answers).filterMap fun (pid, answer) =>
    match answer with
    | .ok _ => none
    | .error failure => some (.identityUnknown pid failure)

end Tracker

end ProcessWatch

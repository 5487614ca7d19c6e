import ProcessWatch.Enrichment

/-!
# Poll cycles

A cycle asks the monitor for the identity of the master process until it is known, for the status,
and for the identities of processes whose parents are unknown, and applies what it gets. A cycle
whose status cannot be had changes nothing else. Where the answers come from is left open: the
cycle is a program over the operations of an `Environment`, in any monad.
-/

namespace ProcessWatch

/-- What the poll cycles need from outside. -/
structure Environment (m : Type → Type) where
  /-- Asks for the identity of a process, or of the master process. -/
  identity : Option Pid → m (Except Failure Identity)
  status : m (Except Failure Status)
  note : Notice → m Unit
  pause : m Unit

/-- How a cycle ended. -/
inductive CycleOutcome where
  | updated (report : CycleReport)
  | failed (failure : Failure)

namespace Tracker

variable {m : Type → Type} [Monad m]

def resolveMaster (env : Environment m) (t : Tracker) : m (Except Failure Tracker) := do
  env.note .resolving
  let answer ← env.identity none
  env.note .resolved
  match answer with
  | .error failure => return .error (failure.within "Failed to resolve the master process")
  | .ok master =>
    env.note (.masterFound master.pid)
    return .ok (t.setMaster master)

/-- Asks who the master process is unless that is known. -/
def ensureMaster (env : Environment m) (t : Tracker) : m Tracker := do
  match t.master with
  | some _ => return t
  | none =>
    match ← t.resolveMaster env with
    | .ok t => return t
    | .error failure =>
      env.note (.masterUnknown failure)
      return t

/-- Fills the snapshots of a status with the identities that they lack. -/
def askIdentities (env : Environment m) (t : Tracker) (snapshots : List ProcessSnapshot) :
    m (List ProcessSnapshot) := do
  let requests := t.requests snapshots
  if !requests.isEmpty then env.note (.fetchingIdentities requests.length)
  let answers ← requests.mapM fun pid => env.identity (some pid)
  (identityNotices requests answers).forM env.note
  return t.enrich snapshots answers

def cycle (env : Environment m) (settings : Settings) (t : Tracker) :
    m (Tracker × CycleOutcome) := do
  let t ← t.ensureMaster env
  match ← env.status with
  | .error failure =>
    -- the master process stays known if it was found
    env.note (.statusUnknown failure)
    return (t, .failed failure)
  | .ok status =>
    let entries := Entries.ofStatus status
    let snapshots ← t.askIdentities env entries.snapshots
    let (t, report, notices) := t.apply settings { entries with snapshots }
    notices.forM env.note
    env.note (.cycleDone report.index report.processes)
    return (t, .updated report)

/-- Runs a cycle and then `more` further ones, with a pause before each of those. After every cycle
`observe` sees the tracker and how the cycle ended. -/
def runCycles (env : Environment m) (settings : Settings)
    (observe : Tracker → CycleOutcome → m Unit) : Nat → Tracker → m Tracker
  | 0, t => do
    let (t, outcome) ← t.cycle env settings
    observe t outcome
    return t
  | more + 1, t => do
    let (t, outcome) ← t.cycle env settings
    observe t outcome
    env.pause
    runCycles env settings observe more t

/-- Runs cycles until `count` of them ran; the first one runs in any case. -/
def run (env : Environment m) (settings : Settings) (observe : Tracker → CycleOutcome → m Unit)
    (count : Nat) (t : Tracker) : m Tracker :=
  runCycles env settings observe (count - 1) t

end Tracker

end ProcessWatch

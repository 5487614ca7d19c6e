import ProcessWatch.Record.Process

/-!
# Notices

Everything that is reported besides the results, as a value: what happened, how grave it is, which
part of the program says so and in which words. How a notice is printed is decided elsewhere.
-/

namespace ProcessWatch

/-- How grave a notice is, gravest first. -/
inductive Level where
  | error
  | warn
  | info
  | debug
  | trace
deriving Repr, DecidableEq

namespace Level

def rank : Level → Nat
  | error => 1
  | warn => 2
  | info => 3
  | debug => 4
  | trace => 5

def text : Level → String
  | error => "ERROR"
  | warn => "WARN"
  | info => "INFO"
  | debug => "DEBUG"
  | trace => "TRACE"

end Level

/-- Why an answer was not obtained, in the words of whoever was to obtain it. -/
structure Failure where
  message : String
deriving Repr, DecidableEq

namespace Failure

/-- The failure of a larger step because of this one. -/
def within (failure : Failure) (step : String) : Failure := ⟨step ++ ": " ++ failure.message⟩

end Failure

/-- Something worth telling. -/
inductive Notice where
  /-- An entry of a status that nobody can be blamed for. -/
  | ignoredEntry (error : Mismatch)
  /-- An entry of a status that does not fit. -/
  | rejectedEntry (pid : Pid) (error : Mismatch)
  /-- A snapshot that clashes with what is known. -/
  | untracked (error : TrackError)
  | reappeared (pid : Pid)
  | stopped (pid : Pid)
  | closedFile (pid : Pid) (name : String)
  | culled (pids : List Pid)
  | resolving
  | resolved
  | masterFound (pid : Pid)
  | masterUnknown (failure : Failure)
  | fetchingIdentities (count : Nat)
  | identityUnknown (pid : Pid) (failure : Failure)
  | statusUnknown (failure : Failure)
  | cycleDone (index processes : Nat)
  | configLoaded (path : String)
  | configMissing (path : String)
  | monitorAt (url : String)
  | started (version : String)
  | requesting (url : String)
  | interrupted

/-- A line for the log: how grave, from which part of the program, in which words. -/
structure LogLine where
  level : Level
  target : String
  message : String
deriving Repr, DecidableEq

/-- A line of the log that opens or closes a group of lines. -/
inductive GroupEvent where
  | start (name : String)
  | stop
deriving Repr, DecidableEq

namespace LogLine

/-- The part of the program that groups are named for. -/
def groupTarget : String := "pmon::group"

/-- The group that a line opens or closes: with a name it opens one, without it closes one. -/
def groupEvent? (line : LogLine) : Option GroupEvent :=
  if line.target = groupTarget then
    some (if line.message.isEmpty then .stop else .start line.message)
  else none

end LogLine

namespace Notice

def pidList (pids : List Pid) : String :=
  "[" ++ ", ".intercalate (pids.map toString) ++ "]"

def logLine : Notice → LogLine
  | ignoredEntry error =>
    ⟨.warn, "pmon::monitor::state", "Ignoring a process status without a pid: " ++ error.message⟩
  | rejectedEntry pid error =>
    ⟨.error, "pmon::monitor::state",
      "Skipping the status of process " ++ toString pid ++ " for this cycle: " ++ error.message⟩
  | untracked error =>
    ⟨.error, "pmon::monitor::state",
      "Skipping a process status for this cycle: " ++ error.message⟩
  | reappeared pid =>
    ⟨.debug, "pmon::monitor::state",
      "Process " ++ toString pid ++ " reappeared after it stopped, tracking it as a new process"⟩
  | stopped pid =>
    ⟨.debug, "pmon::monitor::state", "Process " ++ toString pid ++ " is no longer running"⟩
  | closedFile pid name =>
    ⟨.debug, "pmon::monitor::state", "Process " ++ toString pid ++ " closed " ++ name⟩
  | culled pids => ⟨.debug, "pmon::monitor::state", "Culled processes " ++ pidList pids⟩
  | resolving => ⟨.info, LogLine.groupTarget, "Resolving the master process"⟩
  | resolved => ⟨.info, LogLine.groupTarget, ""⟩
  | masterFound pid =>
    ⟨.info, "pmon::monitor::poller", "Monitoring master process " ++ toString pid⟩
  | masterUnknown failure =>
    ⟨.warn, "pmon::monitor::poller", failure.message ++ ", retrying on the next cycle"⟩
  | fetchingIdentities count =>
    ⟨.trace, "pmon::monitor::poller",
      "Fetching the identity of " ++ toString count ++ " processes"⟩
  | identityUnknown pid failure =>
    ⟨.debug, "pmon::monitor::poller",
      (failure.within ("Could not retrieve the identity of process " ++ toString pid)).message⟩
  | statusUnknown failure =>
    ⟨.warn, "pmon::monitor::poller",
      (failure.within "Could not retrieve process status").message⟩
  | cycleDone index processes =>
    ⟨.debug, "pmon::monitor::poller",
      "Cycle " ++ toString index ++ " tracked " ++ toString processes ++ " processes"⟩
  | configLoaded path => ⟨.debug, "pmon::config", "Config loaded from " ++ path⟩
  | configMissing path => ⟨.debug, "pmon::config", "Config file not found at " ++ path⟩
  | monitorAt url => ⟨.debug, "pmon::cli", "Using the monitor at " ++ url⟩
  | started version => ⟨.debug, "pmon::cli::shared", "pmon v" ++ version⟩
  | requesting url => ⟨.trace, "pmon::monitor_client", "GET " ++ url⟩
  | interrupted => ⟨.info, "pmon::cli::watch", "Interrupted, stopping"⟩

end Notice

end ProcessWatch

import ProcessWatch.CommandLine.Reader
import ProcessWatch.Config.Location
import ProcessWatch.Log
import ProcessWatch.Monitor

/-!
# The program

What a command line does, from the first word to the exit code. Everything outside (files, the
network, the terminal, time and the interrupt of the user) is an operation of a `World`, so the
program runs in any monad that has these.
-/

namespace ProcessWatch

/-- What the program needs from outside. -/
structure World (m : Type → Type) where
  vars : CommandLine.Variables
  colored : Bool
  contentOf : String → m (Except FileError ByteArray)
  fetch : Url → m (Except Failure Reply)
  print : Stream → String → m Unit
  wait : UInt64 → m Unit
  /-- Runs something until it ends or the user interrupts it, and tells which it was. -/
  untilInterrupted : m Unit → m Bool

namespace World

variable {m : Type → Type} [Monad m] (world : World m)

def version : String := "0.3.0"

/-- The lines of the log that are printed. -/
def filter : LogFilter := LogFilter.ofName? (world.vars "PMON_LOG")

/-- Prints a notice as far as the log is printed. -/
def note (notice : Notice) : m Unit :=
  let line := notice.logLine
  match line.printed? world.colored with
  | some (stream, text) =>
    if world.filter.passes line.level then world.print stream text else return
  | none => return

def say (line : String) : m Unit := world.print .output (line ++ "\n")

def network : Network m := ⟨world.fetch, world.wait, world.note⟩

/-! ## The commands -/

/-- What a cycle did, in numbers. -/
def summary (report : CycleReport) : String :=
  let part (count : Nat) (what : String) : String :=
    if count = 0 then "" else ", " ++ toString count ++ " " ++ what
  toString report.processes ++ " processes" ++ part report.changes.stopped.length "stopped"
    ++ part report.changes.culled.length "removed" ++ part report.skipped.length "skipped"

/-- The title of a cycle, above what is shown after it. -/
def title (report : CycleReport) : String :=
  "\n" ++ Ink.bold.paint world.colored ("Cycle " ++ toString report.index) ++ " "
    ++ Ink.dim.paint world.colored (summary report)

/-- Shows what is tracked after a cycle that succeeded. JSON has no titles. -/
def showCycle (view : View) (tracker : Tracker) (outcome : CycleOutcome) : m Unit := do
  match outcome with
  | .updated report =>
    if view.format ≠ .json then world.say (world.title report)
    world.say (view.render world.colored tracker report.tree)
  | .failed _ => return

def banner (monitor : Monitor) : String :=
  Ink.banner.paint world.colored ("pmon v" ++ version) ++ " "
    ++ Ink.dim.paint world.colored ("watching " ++ monitor.base.text)

/-- More cycles than there is time for. -/
def endless : Nat := UInt64.size

/-- Runs cycles until there were enough of them or the user interrupts. -/
def watch (monitor : Monitor) (settings : Settings) (count : Option UInt64) (view : View) :
    m Unit := do
  world.say (world.banner monitor)
  world.note (.started version)
  let env := world.network.environment monitor settings.interval
  let cycles := Tracker.run env settings (world.showCycle view) (count.elim endless UInt64.toNat)
  let interrupted ← world.untilInterrupted do discard (cycles .empty)
  if interrupted then world.note .interrupted

/-- Runs one cycle and shows what it found. -/
def status (monitor : Monitor) (settings : Settings) (view : View) : m (Except Failure Unit) := do
  let env := world.network.environment monitor settings.interval
  match ← Tracker.cycle env settings .empty with
  | (tracker, .updated report) =>
    world.say (view.render world.colored tracker report.tree)
    return .ok ()
  | (_, .failed failure) => return .error (failure.within "Could not retrieve process status")

def basic (monitor : Monitor) (pid : Option Pid) : m (Except Failure Unit) := do
  match ← world.network.identity monitor pid with
  | .ok identity =>
    world.say identity.toJson.pretty
    return .ok ()
  | .error failure => return .error failure

/-- Carries out a job. Only tracking needs the settings to be right. -/
def carryOut (monitor : Monitor) (config : Config) : Job → m (Except Failure Unit)
  | .watch count preferences view =>
    match config.settings preferences with
    | .ok settings => do
      world.watch monitor settings count view
      return .ok ()
    | .error error => return .error ⟨error.message⟩
  | .status preferences view =>
    match config.settings preferences with
    | .ok settings => world.status monitor settings view
    | .error error => return .error ⟨error.message⟩
  | .basic pid => world.basic monitor pid

/-! ## From the command line to the exit code -/

def configSource (invocation : Invocation) : ConfigSource where
  path := invocation.configPath
  name := invocation.configName
  home := world.vars "HOME"
  base := world.vars "XDG_CONFIG_HOME"

def run (invocation : Invocation) : m (Except Failure Unit) := do
  match ← (world.configSource invocation).load world.contentOf with
  | .error error => return .error error.failure
  | .ok (config, notice) =>
    world.note notice
    match Monitor.ofText (config.chosenUrl invocation.url) with
    | .error error => return .error error.failure
    | .ok monitor =>
      world.note (.monitorAt monitor.base.text)
      world.carryOut monitor config invocation.job

def usage : String :=
  String.join <| List.map (· ++ "\n")
    ["Watch the processes of a process monitor", "", "Usage: pmon [OPTIONS] <COMMAND>", "",
      "Commands:",
      "  watch   Poll the monitor continuously and print the process tree after every cycle",
      "  status  Poll the monitor once and print the processes",
      "  basic   Print the identity of a process, or of the master process"]

/-- Answers a command line that is not carried out. -/
def refuse (refusal : Refusal) : m UInt32 := do
  match refusal with
  -- what was asked for is no error
  | .version => world.say ("pmon " ++ version); return 0
  | .help => world.print .output usage; return 0
  | _ => world.print .error usage; return 2

/-- Carries out a command line, given without the name of the program, and gives the exit code. -/
def main (words : List String) : m UInt32 := do
  match CommandLine.read world.vars words with
  | .error refusal => world.refuse refusal
  | .ok invocation =>
    match ← world.run invocation with
    | .ok () => return 0
    | .error failure =>
      world.print .error ("Error: " ++ failure.message ++ "\n")
      return 1

end World

end ProcessWatch

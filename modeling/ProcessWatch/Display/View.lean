import ProcessWatch.Display.Detail
import ProcessWatch.Display.Grid
import ProcessWatch.Display.Guides
import ProcessWatch.Record.Encoding
import ProcessWatch.Tracker

/-!
# What is shown after a cycle

The tree of the master process, the table of all processes, or a single process in detail.
-/

namespace ProcessWatch

inductive OutputFormat where
  | tree
  | table
  | json
deriving Repr, DecidableEq

/-- What is shown after a cycle. -/
structure View where
  format : OutputFormat
  /-- The process that is shown in place of all. -/
  pid : Option Pid
  /-- Number of samples that are shown of a history. -/
  samples : Nat

namespace View

def renderProcess (colored : Bool) (view : View) (p : ProcessRecord) : String :=
  match view.format with
  | .json => p.toJson.pretty
  | .tree | .table => Display.process colored view.samples p

def render (colored : Bool) (view : View) (tracker : Tracker) (tree : Option ProcessNode) :
    String :=
  match view.pid with
  | some pid =>
    match tracker.process? pid with
    | some p => view.renderProcess colored p
    | none => "Process " ++ toString pid ++ " is not tracked"
  | none =>
    match view.format, tree with
    | .tree, some tree => Display.tree colored tree
    | .tree, none => "The master process is not known yet"
    | .table, _ => Display.table tracker.processes.values
    | .json, some tree => tree.toJson.pretty
    | .json, none => "null"

end View

end ProcessWatch

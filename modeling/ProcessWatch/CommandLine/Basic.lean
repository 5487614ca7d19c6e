import ProcessWatch.Display.View
import ProcessWatch.Preferences

/-!
# What a command line asks for

The jobs of the program, what is given along with them, and why a command line is refused.
-/

namespace ProcessWatch

inductive Command where
  | watch
  | status
  | basic
deriving Repr, DecidableEq

namespace Command

def names : Command → List String
  | watch => ["watch", "w"]
  | status => ["status"]
  | basic => ["basic"]

def all : List Command := [watch, status, basic]

def ofName? (name : String) : Option Command := all.find? fun command => name ∈ command.names

/-- Whether a command tracks processes over time. -/
def tracks : Command → Bool
  | watch | status => true
  | basic => false

end Command

inductive Job where
  /-- Runs cycles and shows what is tracked after each of them; without a count it goes on until it
  is interrupted. -/
  | watch (count : Option UInt64) (preferences : Preferences) (view : View)
  /-- Runs one cycle and shows what it found. -/
  | status (preferences : Preferences) (view : View)
  /-- Shows the identity of a process, or of the master process. -/
  | basic (pid : Option Pid)

structure Invocation where
  url : Option String
  /-- The name of the configuration. -/
  configName : Option String
  /-- The file of the configuration. -/
  configPath : Option String
  job : Job

/-- Why a command line is not carried out. -/
inductive Refusal where
  | help
  | version
  /-- Nothing at all is asked for. -/
  | nothingAsked
  | missingCommand
  | unknownCommand
  /-- There is no flag of this name, or no room for another argument. -/
  | unknownArgument
  /-- A flag has no value, or none of the values that it can have. -/
  | invalidValue
  /-- A value is no number, or a number out of range. -/
  | invalidNumber
  /-- A flag is given twice. -/
  | repeatedFlag
  | unwantedValue
  /-- A flag is given without another one that it needs. -/
  | missingFlag
deriving Repr, DecidableEq

end ProcessWatch

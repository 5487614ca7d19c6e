import ProcessWatch.Display.Ink
import ProcessWatch.Notice

/-!
# The log

Which lines of the log are printed, where to, and in which form. Grave lines go to the standard
error, all others to the standard output; lines below the level of information carry their level and
the part of the program that they come from.
-/

namespace ProcessWatch

/-- The lines that are printed: those up to a level, or none. -/
inductive LogFilter where
  | off
  | upTo (level : Level)
deriving Repr, DecidableEq

namespace LogFilter

def default : LogFilter := .upTo .info

def text : LogFilter → String
  | off => "OFF"
  | upTo level => level.text

def all : List LogFilter :=
  [off, upTo .error, upTo .warn, upTo .info, upTo .debug, upTo .trace]

/-- The filter of a name, in capitals or not; no or another name stands for the default. -/
def ofName? (name : Option String) : LogFilter :=
  match name with
  | none => default
  | some name => (all.find? fun filter => filter.text == name.map Char.toUpper).getD default

def passes (filter : LogFilter) (level : Level) : Bool :=
  match filter with
  | off => false
  | upTo limit => level.rank ≤ limit.rank

end LogFilter

inductive Stream where
  | output
  | error
deriving Repr, DecidableEq

namespace LogLine

def isGrave (line : LogLine) : Bool := line.level.rank ≤ Level.warn.rank

def text (colored : Bool) (line : LogLine) : String :=
  let located := "[" ++ line.level.text ++ "::" ++ line.target ++ "] " ++ line.message
  match line.level with
  | .error => Ink.red.paint colored line.message
  | .warn => Ink.yellow.paint colored line.message
  | .info => line.message
  | .debug => Ink.faintBlue.paint colored located
  | .trace => Ink.faintBlack.paint colored located

/-- What is printed for a line, and where: the name of a group that it opens, nothing if it closes
one, else the line itself. -/
def printed? (colored : Bool) (line : LogLine) : Option (Stream × String) :=
  match line.groupEvent? with
  | some (.start name) => some (.output, name ++ "...\n")
  | some .stop => none
  | none => some (if line.isGrave then .error else .output, line.text colored ++ "\n")

end LogLine

end ProcessWatch

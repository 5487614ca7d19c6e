import ProcessWatch.Display.Ink
import ProcessWatch.Display.Quantity
import ProcessWatch.Json.Printer

/-!
# Attributes as they are shown

A few attributes have a form of their own; any other is shown with its name.
-/

namespace ProcessWatch.Display

/-- A value by itself: a string as it is, anything else as JSON. -/
def plain : Json → String
  | .string s => s
  | value => value.compact

/-- A command line: a list of arguments with blanks between them, or a single value. -/
def commandLine : Json → String
  | .array arguments => " ".intercalate (arguments.map plain)
  | value => plain value

def isMemory (key : String) : Bool := ["memory_rss", "memory_vms", "size"].contains key

def isPercent (key : String) : Bool := key.endsWith "_percent"

def named (key text : String) : Option String := some (key ++ "=" ++ text)

/-- An attribute, if there is anything to show of it. -/
def fieldText (colored : Bool) (key : String) (value : Json) : Option String :=
  match key, value with
  | _, .null => none
  | "is_running", .bool true => some (Ink.green.paint colored "running")
  | "is_running", .bool false => some (Ink.red.paint colored "stopped")
  | "is_master", .bool true => some (Ink.bold.paint colored "master")
  | "is_master", .bool false => none
  | "cmdline", value => some (Ink.dim.paint colored (commandLine value))
  | key, .number n =>
    if isMemory key then named key (memory n.toFloat)
    else if isPercent key then named key (percent n.toFloat)
    else named key (plain (.number n))
  | key, value => named key (plain value)

def fieldTexts (colored : Bool) (fields : List (String × Json)) : List String :=
  fields.filterMap fun field => fieldText colored field.1 field.2

def words (parts : List String) : String := " ".intercalate parts

def lines (parts : List String) : String := "\n".intercalate parts

end ProcessWatch.Display

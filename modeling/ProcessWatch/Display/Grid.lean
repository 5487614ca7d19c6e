import ProcessWatch.Display.Attribute
import ProcessWatch.Record.Process
import ProcessWatch.Text.Width

/-!
# Tables in a frame

A table has a head and a row a process, in a frame with round corners. A cell may take several
lines; a row is as high as its highest cell, and a column as wide as its widest line.
-/

namespace ProcessWatch.Display

/-- To which side of its column the text of a cell goes. -/
inductive Side where
  | left
  | right
deriving Repr, DecidableEq

/-- A column: what its head says and to which side its cells go. -/
structure Column where
  head : String
  side : Side

namespace Grid

def cellLines (cell : String) : List String := cell.splitOn "\n"

def cellWidth (cell : String) : Nat := ((cellLines cell).map Text.width).foldl max 0

def blanks (count : Nat) : String := String.ofList (List.replicate count ' ')

def times (count : Nat) (text : String) : String := String.join (List.replicate count text)

/-- Lines of a cell, all as wide as the column. The lines of a cell are moved to its side
together. -/
def padded (side : Side) (columnWidth height : Nat) (cell : String) : List String :=
  let rows := cellLines cell
  let inner := cellWidth cell
  let before := match side with
    | .left => 0
    | .right => columnWidth - inner
  (List.range height).map fun i =>
    match rows[i]? with
    | some row => blanks before ++ row ++ blanks (columnWidth - before - Text.width row)
    | none => blanks columnWidth

/-- A line of the frame: its two ends, what crosses it between columns, and the line itself. -/
def rule (left cross right : String) (widths : List Nat) : String :=
  left ++ cross.intercalate (widths.map fun w => times (w + 2) "─") ++ right

def rowLines (sides : List Side) (widths : List Nat) (cells : List String) : List String :=
  let height := (cells.map fun cell => (cellLines cell).length).foldl max 1
  let columns := (sides.zip (widths.zip cells)).map fun (side, columnWidth, cell) =>
    padded side columnWidth height cell
  (List.range height).map fun i =>
    "│ " ++ " │ ".intercalate (columns.map fun column => column.getD i "") ++ " │"

def columnWidths (rows : List (List String)) : List Nat :=
  rows.foldl (fun widths row => List.zipWith max widths (row.map cellWidth))
    ((rows.headD []).map cellWidth)

/-- A table. Without rows it has no lower edge. -/
def render (columns : List Column) (rows : List (List String)) : String :=
  let head := columns.map (·.head)
  let sides := columns.map (·.side)
  let widths := columnWidths (head :: rows)
  let foot := if rows.isEmpty then [] else [rule "╰" "┴" "╯" widths]
  lines <|
    [rule "╭" "┬" "╮" widths]
    ++ rowLines sides widths head
    ++ [rule "├" "┼" "┤" widths]
    ++ rows.flatMap (rowLines sides widths)
    ++ foot

end Grid

def processColumns : List Column :=
  [⟨"PID", .left⟩, ⟨"PPID", .left⟩, ⟨"Status", .left⟩, ⟨"CPU", .right⟩, ⟨"RSS", .right⟩,
   ⟨"Open files", .right⟩, ⟨"Command", .left⟩]

/-- Whether a process runs, for how long it has not, and whether it is the master. -/
def liveness (p : ProcessRecord) : String :=
  let status := match p.isRunning, p.age with
    | true, _ => "running"
    | false, some age => "stopped (" ++ toString age ++ ")"
    | false, none => "stopped"
  if p.isMaster then status ++ ", master" else status

def number? (p : ProcessRecord) (key : String) : Option Float :=
  match Fields.get? key p.attributes with
  | some (.number n) => some n.toFloat
  | _ => none

def processRow (p : ProcessRecord) : List String :=
  [toString p.pid,
   match p.parent with
   | some parent => toString parent
   | none => "-",
   liveness p,
   match number? p "cpu_percent" with
   | some value => percent value
   | none => "-",
   match number? p "memory_rss" with
   | some value => memory value
   | none => "-",
   toString p.openFiles.length,
   match Fields.get? "cmdline" p.attributes with
   | some value => commandLine value
   | none => ""]

def table (processes : List ProcessRecord) : String :=
  Grid.render processColumns (processes.map processRow)

end ProcessWatch.Display

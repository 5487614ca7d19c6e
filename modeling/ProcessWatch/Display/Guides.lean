import ProcessWatch.Display.Attribute
import ProcessWatch.Table.Tree

/-!
# Trees with guides

A tree is drawn with a line a process. What stands before a line shows where it belongs: a guide for
every process above it that has further siblings, and a branch.
-/

namespace ProcessWatch.Display

def nodeLine (colored : Bool) (node : ProcessNode) : String :=
  words (Ink.bold.paint colored (toString node.pid) :: fieldTexts colored node.attributes.entries)

/-- What leads to a process: a tee if siblings follow it and a corner if it is the last. -/
def branch (last : Bool) : String := if last then "└── " else "├── "

/-- What stands before everything below a process: a bar if siblings follow it. -/
def guide (last : Bool) : String := if last then "    " else "│   "

mutual

/-- The lines of everything below a process. -/
def linesBelow (colored : Bool) (indent : String) : ProcessNode → List String
  | .node _ _ children => childLines colored indent children

def childLines (colored : Bool) (indent : String) : List ProcessNode → List String
  | [] => []
  | child :: rest =>
    (indent ++ branch rest.isEmpty ++ nodeLine colored child)
      :: linesBelow colored (indent ++ guide rest.isEmpty) child
      ++ childLines colored indent rest

end

def treeLines (colored : Bool) (tree : ProcessNode) : List String :=
  nodeLine colored tree :: linesBelow colored "" tree

def tree (colored : Bool) (root : ProcessNode) : String := lines (treeLines colored root)

end ProcessWatch.Display

import ProcessWatch.Proofs.Display.Guides
import ProcessWatch.Proofs.Json.OneLine

/-!
# The lines of a drawn tree

A tree is drawn with a line a process, and read as text it has as many lines as there are processes,
unless something that it shows breaks a line. Numbers, inks and guides break none, and neither do
values that are shown as JSON. A string is shown as it is.

## The architecture

* **`Display.fieldBreaks`** — the line breaks that an attribute brings along: those of its name, and
  of a string or the arguments of a command line. `breaks_fieldText`: these are all.
* **`Display.breaks_placeLine`** — those of the line of a process are those of its attributes.
* **`Display.linesOf_tree`** — the lines of the text of a tree.
-/

namespace ProcessWatch

open Text (breaks breaks_append breaks_eq_zero_iff linesOf)

/-! ## Inks and quantities -/

/-- Colours break no line. -/
theorem Ink.breaks_paint (colored : Bool) (ink : Ink) (text : String) :
    breaks (ink.paint colored text) = breaks text := by
  cases colored with
  | false => rfl
  | true =>
    have hreset : breaks (Ink.sequence "0") = 0 := by decide
    have hcodes : breaks (String.join (ink.codes.map Ink.sequence)) = 0 := by
      cases ink <;> decide
    rw [Ink.paint, if_pos rfl, breaks_append, breaks_append, hcodes, hreset]
    omega

/-- Digits with a point among them are on one line. -/
theorem Decimal.breaks_placePoint (units places : Nat) : breaks (placePoint units places) = 0 := by
  have hpoint : breaks "." = 0 := by decide
  unfold placePoint
  dsimp only
  split
  · exact breaks_repr units
  · have hdigits : breaks (toString units) = 0 := breaks_repr units
    have hpadded (count : Nat) :
        '\n' ∉ (String.ofList (List.replicate count '0') ++ toString units).toList := by
      rw [← breaks_eq_zero_iff, breaks_append, hdigits, Text.breaks_ofList]
      simp [List.count_replicate]
    rw [breaks_append, breaks_append, Text.breaks_take (hpadded _), hpoint,
      Text.breaks_drop (hpadded _)]

theorem Decimal.breaks_fixed (places : Nat) (x : Float) : breaks (fixed places x) = 0 := by
  unfold fixed
  split
  · decide
  · split <;> decide
  · have hsign (negative : Bool) : breaks (if negative then "-" else "") = 0 := by
      cases negative <;> decide
    dsimp only
    rw [breaks_append, hsign, Decimal.breaks_placePoint]

namespace Display

/-- A percentage is shown on one line. -/
theorem breaks_percent (value : Float) : breaks (percent value) = 0 := by
  have hsign : breaks "%" = 0 := by decide
  rw [percent, breaks_append, Decimal.breaks_fixed, hsign]

/-- To drop a place adds no break. -/
theorem breaks_dropZeroPlace {text : String} (h : breaks text = 0) :
    breaks (dropZeroPlace text) = 0 := by
  unfold dropZeroPlace
  split
  · refine breaks_eq_zero_iff.2 fun hmem => breaks_eq_zero_iff.1 h ?_
    have hcopy : (text.dropEnd 2).toString = (text.dropEnd 2).copy := rfl
    rw [hcopy, String.toList_copy_dropEnd] at hmem
    exact List.mem_of_mem_take hmem
  · exact h

/-- The unit of a size is one of those that sizes are shown in. -/
theorem inUnit_unit (size : Float) (unit : String) (units : List String) :
    (inUnit size unit units).2 ∈ unit :: units := by
  induction units generalizing size unit with
  | nil => exact List.mem_singleton_self unit
  | cons larger rest ih =>
    unfold inUnit
    split
    · exact List.mem_cons_of_mem _ (ih _ larger)
    · exact List.mem_cons_self

/-- A size is shown on one line. -/
theorem breaks_memory (bytes : Float) : breaks (memory bytes) = 0 := by
  have hblank : breaks " " = 0 := by decide
  have hbytes : breaks " B" = 0 := by decide
  have hunits : ∀ unit ∈ "B" :: largerUnits, breaks unit = 0 := by decide
  unfold memory
  generalize (if 0 < bytes then bytes else 0) = size
  dsimp only
  split
  · rw [breaks_append, Decimal.breaks_fixed, hbytes]
  · rw [breaks_append, breaks_append, breaks_dropZeroPlace (Decimal.breaks_fixed _ _), hblank,
      hunits _ (inUnit_unit _ _ _)]

/-! ## Attributes -/

/-- The line breaks of a value that is shown by itself: only a string is not written as JSON. -/
def plainBreaks : Json → Nat
  | .string s => breaks s
  | _ => 0

/-- The line breaks that an attribute brings along: those of its name and of its value. A command
line is shown without its name, and its arguments one by one. -/
def fieldBreaks (key : String) : Json → Nat
  | .null => 0
  | .array items => if key = "cmdline" then (items.map plainBreaks).sum else breaks key
  | value => breaks key + plainBreaks value

/-- A value as it is shown has the breaks that are in its texts. -/
theorem breaks_plain (value : Json) : breaks (plain value) = plainBreaks value := by
  cases value with
  | string s => rfl
  | null | bool _ | number _ | array _ | object _ => exact Json.breaks_compact _

/-- A command line has those of its parts. -/
theorem breaks_commandLine (value : Json) (h : value ≠ .null) :
    breaks (commandLine value) = fieldBreaks "cmdline" value := by
  have hname : breaks "cmdline" = 0 := by decide
  cases value with
  | null => exact absurd rfl h
  | array items =>
    rw [commandLine, Text.breaks_words, List.map_map]
    exact congrArg List.sum (List.map_congr_left fun item _ => breaks_plain item)
  | bool _ | number _ | string _ | object _ =>
    rw [commandLine, fieldBreaks, hname, Nat.zero_add]
    all_goals first | exact breaks_plain _ | nofun

/-- The name of a field and its text, next to each other. -/
theorem breaks_named (key text : String) :
    (named key text).elim 0 breaks = breaks key + breaks text := by
  have hequals : breaks "=" = 0 := by decide
  rw [named, Option.elim_some, breaks_append, breaks_append, hequals, Nat.add_zero]

/-- What is shown of an attribute has the line breaks that the attribute brings along. -/
theorem breaks_fieldText (colored : Bool) (key : String) (value : Json) :
    (fieldText colored key value).elim 0 breaks = fieldBreaks key value := by
  -- the cases are the ways in which a field is shown; only texts that came from outside can break a
  -- line
  unfold fieldText
  split
  case h_1 => rfl
  case h_2 | h_3 | h_4 =>
    rw [Option.elim_some, Ink.breaks_paint]
    decide
  case h_5 => decide
  case h_6 hnull =>
    rw [Option.elim_some, Ink.breaks_paint, breaks_commandLine value hnull]
  case h_7 n _ =>
    have hnumber : fieldBreaks key (.number n) = breaks key := rfl
    rw [hnumber]
    split
    · rw [breaks_named, breaks_memory, Nat.add_zero]
    · split
      · rw [breaks_named, breaks_percent, Nat.add_zero]
      · rw [breaks_named, breaks_plain]
        rfl
  case h_8 hkey hnull _ _ _ _ _ =>
    rw [breaks_named, breaks_plain]
    cases value with
    | null => exact absurd rfl hnull
    | array items => exact (if_neg hkey).symm
    | bool _ | number _ | string _ | object _ => rfl

/-! ## Lines -/

/-- The line breaks that the attributes of a process bring along. -/
def nodeBreaks (node : ProcessNode) : Nat :=
  (node.attributes.entries.map fun field => fieldBreaks field.1 field.2).sum

/-- The shown fields have the breaks of all fields: those that are not shown have none to show. -/
theorem breaks_fieldTexts (colored : Bool) (fields : List (String × Json)) :
    ((fieldTexts colored fields).map breaks).sum
      = (fields.map fun field => fieldBreaks field.1 field.2).sum := by
  induction fields with
  | nil => rfl
  | cons field rest ih =>
    rw [List.map_cons, List.sum_cons, ← breaks_fieldText colored, ← ih, fieldTexts,
      List.filterMap_cons, ← fieldTexts]
    cases fieldText colored field.1 field.2 with
    | none => simp
    | some text => simp

/-- The line of a process breaks where a field of it does. -/
theorem breaks_nodeLine (colored : Bool) (node : ProcessNode) :
    breaks (nodeLine colored node) = nodeBreaks node := by
  have hpid : breaks (toString node.pid) = 0 := breaks_repr node.pid.toNat
  rw [nodeLine, words, Text.breaks_words, List.map_cons, List.sum_cons, Ink.breaks_paint, hpid,
    breaks_fieldTexts, Nat.zero_add, nodeBreaks]

/-- The guides before it add no break. -/
theorem breaks_placeLine (colored : Bool) (root : ProcessNode) (place : List Nat × ProcessNode) :
    breaks (placeLine colored root place) = nodeBreaks place.2 := by
  have hindent : breaks (root.indent place.1) = 0 :=
    breaks_eq_zero_iff.2 fun hmem => absurd ((length_indent root place.1).2 _ hmem) (by decide)
  rw [placeLine, breaks_append, hindent, Nat.zero_add, breaks_nodeLine]

/-- So the breaks of a drawing are those of all its processes. -/
theorem breaks_treeLines (colored : Bool) (root : ProcessNode) :
    ((treeLines colored root).map breaks).sum = (root.subtrees.map nodeBreaks).sum := by
  rw [treeLines_eq, ← ProcessNode.nodes_places, List.map_map, List.map_map]
  exact congrArg List.sum (List.map_congr_left fun place _ => breaks_placeLine colored root place)

/-- A process is drawn on one line exactly if no field of it breaks one. -/
theorem nodeBreaks_eq_zero_iff {node : ProcessNode} :
    nodeBreaks node = 0 ↔ ∀ field ∈ node.attributes.entries, fieldBreaks field.1 field.2 = 0 := by
  rw [nodeBreaks, List.sum_eq_zero_iff_forall_eq_nat, List.forall_mem_map]

/-- The text of a tree has a line for every process, and one more for every line break that an
attribute brings along. If there is none, the lines are those of the processes, from the root down,
and otherwise they are not. -/
theorem linesOf_tree (colored : Bool) (root : ProcessNode) :
    (linesOf (tree colored root)).length = root.size + (root.subtrees.map nodeBreaks).sum ∧
    (linesOf (tree colored root)
        = root.places.map (fun place => root.indent place.1 ++ nodeLine colored place.2)
      ↔ ∀ node ∈ root.subtrees, ∀ field ∈ node.attributes.entries,
          fieldBreaks field.1 field.2 = 0) ∧
    root.places.map Prod.snd = root.subtrees := by
  have hne : treeLines colored root ≠ [] := List.cons_ne_nil _ _
  have hsize : (treeLines colored root).length = root.size := by
    rw [treeLines_eq, List.length_map, ← ProcessNode.length_subtrees, ← ProcessNode.nodes_places,
      List.length_map]
  have hlines : root.places.map (fun place => root.indent place.1 ++ nodeLine colored place.2)
      = treeLines colored root := (treeLines_eq colored root).symm
  refine ⟨?_, ?_, ProcessNode.nodes_places root⟩
  · rw [tree, Text.length_linesOf_lines hne, hsize, breaks_treeLines]
  · rw [hlines, tree, Text.linesOf_lines_iff hne, breaks_treeLines,
      List.sum_eq_zero_iff_forall_eq_nat]
    simp only [List.forall_mem_map, nodeBreaks_eq_zero_iff]

/-- A process whose command line breaks a line. -/
def brokenTree : ProcessNode :=
  .node 1 (SortedMap.empty.insert "cmdline" (.string "sleep\n10")) []

/-- A tree does not always have a line for every process and no others. -/
theorem not_line_each_of_broken :
    ¬ ∀ (colored : Bool) (root : ProcessNode), (linesOf (tree colored root)).length = root.size := by
  intro line_each
  have hbreaks : breaks (tree false brokenTree) = 1 := by decide +kernel
  have hlines := line_each false brokenTree
  rw [Text.length_linesOf, hbreaks] at hlines
  exact absurd hlines (by decide)

end Display

end ProcessWatch

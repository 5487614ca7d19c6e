import ProcessWatch.Yaml.Scalar

/-!
# YAML in brackets

Sequences and mappings in brackets, where neither lines nor columns count, except that a name and
its colon stand on one line. JSON is a special case.
-/

namespace ProcessWatch.Yaml

/-- How far a name and its colon may be apart. -/
def maxNameLength : Nat := 1024

/-- The place behind a colon that makes `name` the name of a field. After a plain scalar a colon
needs a gap behind it. -/
def afterName? (name : Yaml) (start : Cursor) (behind : Cursor) : Option Cursor :=
  let colon := behind.skipBlanks
  let separated := match name with
    | .scalar false _ => gapAhead (colon.rest.drop 1)
    | _ => true
  if colon.at? ':' && behind.line = start.line && !behind.fresh && separated
      && colon.column ≤ start.column + maxNameLength then
    some (colon.past 1)
  else none

mutual

/-- Reads a value inside brackets, or one that begins with a bracket; nesting is bounded by the
first argument. -/
def flowValue? : Nat → Cursor → Option (Yaml × Cursor)
  | 0, _ => none
  | depth + 1, c =>
    if c.atDocumentEnd then none
    else if c.at? '[' then
      (flowItems? depth [] (c.past 1)).map fun (items, next) => (.sequence items, next)
    else if c.at? '\x7b' then
      (flowFields? depth [] (c.past 1)).map fun (fields, next) => (.mapping fields, next)
    else scalar? true 0 c

/-- Reads the value of a field, which may be left out. -/
def flowFieldValue? : Nat → Cursor → Option (Yaml × Cursor)
  | 0, _ => none
  | depth + 1, c =>
    let next := c.skipInner
    if next.at? ',' || next.at? ']' || next.at? '\x7d' then some (empty, next)
    else flowValue? depth next

/-- Reads the items of a sequence up to its bracket; a field among them is a mapping of its own. -/
def flowItems? : Nat → List Yaml → Cursor → Option (List Yaml × Cursor)
  | 0, _, _ => none
  | depth + 1, items, c => do
    let start := c.skipInner
    if start.at? ']' then return (items.reverse, start.past 1)
    let (first, behind) ← flowValue? depth start
    let (item, next) ← match afterName? first start behind with
      | some next => (flowFieldValue? depth next).map fun (value, next) =>
        (Yaml.mapping [(first, value)], next)
      | none => some (first, behind)
    let next := next.skipInner
    if next.at? ',' then flowItems? depth (item :: items) (next.past 1)
    else if next.at? ']' then return ((item :: items).reverse, next.past 1)
    else none

/-- Reads the fields of a mapping up to its bracket; a name alone has an empty value. -/
def flowFields? : Nat → List (Yaml × Yaml) → Cursor → Option (List (Yaml × Yaml) × Cursor)
  | 0, _, _ => none
  | depth + 1, fields, c => do
    let start := c.skipInner
    if start.at? '\x7d' then return (fields.reverse, start.past 1)
    let (name, behind) ← flowValue? depth start
    let (value, next) ← match afterName? name start behind with
      | some next => flowFieldValue? depth next
      | none => some (empty, behind)
    let next := next.skipInner
    if next.at? ',' then flowFields? depth ((name, value) :: fields) (next.past 1)
    else if next.at? '\x7d' then return (((name, value) :: fields).reverse, next.past 1)
    else none

end

end ProcessWatch.Yaml

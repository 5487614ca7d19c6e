import ProcessWatch.Yaml.Flow

/-!
# YAML documents

Sequences and mappings that are laid out by indentation, and the document that they make up. Read
are mappings and sequences, values in brackets, scalars on one or more lines and comments; anchors,
tags, directives, block scalars and names behind a question mark are not.
-/

namespace ProcessWatch.Yaml

/-- Reads a value that needs no indentation. -/
def leaf? (depth least : Nat) (c : Cursor) : Option (Yaml × Cursor) :=
  if c.at? '[' || c.at? '\x7b' then flowValue? depth c else scalar? false least c

/-- The place behind the colon that makes a value the name of a field; a gap follows it. -/
def afterBlockName? (name : Yaml) (start behind : Cursor) : Option Cursor :=
  (afterName? name start behind).filter fun next => gapAhead next.rest

/-- Goes to the next line behind a value. -/
def ended? (value : Yaml) (behind : Cursor) : Option (Yaml × Cursor) :=
  behind.endLine?.map (value, ·)

mutual

/-- Reads the value that begins at a place and is at home in columns from `least` on: a sequence, a
mapping or a value without indentation. The place after it begins a line. -/
def blockValue? : Nat → Nat → Cursor → Option (Yaml × Cursor)
  | 0, _, _ => none
  | depth + 1, least, c =>
    if c.atDash then
      (blockItems? depth c.column [] c).map fun (items, next) => (.sequence items, next)
    else do
      let (value, behind) ← leaf? depth least c
      match afterBlockName? value c behind with
      | some _ =>
        (blockFields? depth c.column [] c).map fun (fields, next) => (.mapping fields, next)
      | none => ended? value behind

/-- Reads the value behind a colon or a document mark: on the same line one without indentation, on
further lines one in a column from `least` on, or a sequence in a column from `dashes` on. -/
def fieldValue? : Nat → Nat → Nat → Cursor → Option (Yaml × Cursor)
  | 0, _, _, _ => none
  | depth + 1, least, dashes, c =>
    let next := c.skip
    if !next.startsLine then do
      let (value, behind) ← leaf? depth least next
      ended? value behind
    else if next.atDocumentEnd then some (empty, next)
    else if (if next.atDash then dashes else least) ≤ next.column then blockValue? depth least next
    else some (empty, next)

/-- Reads the value behind a dash, on the same line or on further ones. -/
def itemValue? : Nat → Nat → Cursor → Option (Yaml × Cursor)
  | 0, _, _ => none
  | depth + 1, least, c =>
    let next := c.skipAfterDash
    if next.startsLine && (next.atDocumentEnd || next.column < least) then some (empty, next)
    else blockValue? depth least next

def blockItems? : Nat → Nat → List Yaml → Cursor → Option (List Yaml × Cursor)
  | 0, _, _, _ => none
  | depth + 1, column, items, c => do
    let (item, next) ← itemValue? depth (column + 1) (c.past 1)
    let items := item :: items
    if !next.atDocumentEnd && next.column = column && next.atDash then
      blockItems? depth column items next
    else if next.atDocumentEnd || next.column ≤ column then return (items.reverse, next)
    else none

def blockFields? : Nat → Nat → List (Yaml × Yaml) → Cursor → Option (List (Yaml × Yaml) × Cursor)
  | 0, _, _, _ => none
  | depth + 1, column, fields, c => do
    let (name, behind) ← leaf? depth (column + 1) c
    let (value, next) ← fieldValue? depth (column + 1) column (← afterBlockName? name c behind)
    let fields := (name, value) :: fields
    if next.atDocumentEnd || next.column < column then return (fields.reverse, next)
    else if next.column = column then blockFields? depth column fields next
    else none

end

/-- Whether a character may stand in a document: controls may not. -/
def isAllowed (c : Char) : Bool :=
  let code := c.toNat
  code = 0x09 || code = 0x0a || code = 0x0d || code = 0x85 || (0x20 ≤ code && code ≤ 0x7e)
    || (0xa0 ≤ code && code ≠ 0xfffe && code ≠ 0xffff)

/-- Writes all usual line breaks alike. -/
def unifyBreaks : List Char → List Char
  | '\r' :: '\n' :: rest => '\n' :: unifyBreaks rest
  | '\r' :: rest | '\u0085' :: rest => '\n' :: unifyBreaks rest
  | c :: rest => c :: unifyBreaks rest
  | [] => []

/-- Goes over marks that end a document and what is no content. -/
def skipEnds : Nat → Cursor → Cursor
  | 0, c => c
  | n + 1, c =>
    if c.column = 0 && startsWithMark '.' c.rest then skipEnds n (c.past 3).skip else c

/-- Whether nothing follows a document. -/
def isLast (c : Cursor) : Bool := (skipEnds c.rest.length c).atEnd

/-- Reads a text that holds at most one document; nothing at all is an empty value. -/
def read? (text : String) : Option Yaml := do
  let chars := match text.toList with
    | '\ufeff' :: chars => chars
    | chars => chars
  if !chars.all isAllowed then none
  let chars := unifyBreaks chars
  let depth := 4 * chars.length + 4
  let start := Cursor.skip ⟨chars, 0, 0, true⟩
  let (value, next) ←
    if start.atEnd then some (empty, start)
    else if start.atDocumentEnd then
      if start.at? '-' then fieldValue? depth 0 0 (start.past 3) else none
    else blockValue? depth 0 start
  if isLast next then return value else none

end ProcessWatch.Yaml

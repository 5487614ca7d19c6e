import ProcessWatch.Yaml.Basic

/-!
# Places in a YAML text

In YAML it matters in which column something stands and whether it begins its line. A cursor knows
both of the place that it points at.
-/

namespace ProcessWatch.Yaml

/-- A place in a text. -/
structure Cursor where
  /-- The text from here on. -/
  rest : List Char
  /-- Number of characters before the place on its line. -/
  column : Nat
  /-- Number of lines before the place. -/
  line : Nat
  /-- Whether only blanks stand before the place on its line. -/
  fresh : Bool

/-- Whether a character separates the words of a line. -/
def isBlank (c : Char) : Bool := c = ' ' || c = '\t'

/-- Whether a character ends a line, where the usual line breaks are all written alike. -/
def isBreak (c : Char) : Bool := c ∈ ['\n', '\u2028', '\u2029']

/-- Whether a text goes on with a blank or a line break, or ends. -/
def gapAhead : List Char → Bool
  | [] => true
  | c :: _ => isBlank c || isBreak c

/-- Whether a text goes on with the mark of a document, three dashes or three dots, alone. -/
def startsWithMark (mark : Char) : List Char → Bool
  | a :: b :: c :: rest => a = mark && b = mark && c = mark && gapAhead rest
  | _ => false

/-- Whether a document ends at a text that begins a line. -/
def endsDocument (rest : List Char) : Bool := startsWithMark '-' rest || startsWithMark '.' rest

namespace Cursor

/-- The place `n` characters further on the same line, behind something other than blanks. -/
def past (c : Cursor) (n : Nat) : Cursor :=
  { c with rest := c.rest.drop n, column := c.column + n, fresh := false }

def atEnd (c : Cursor) : Bool := c.rest.isEmpty

/-- Whether the line, or the text, has nothing more before this place. -/
def startsLine (c : Cursor) : Bool := c.fresh || c.atEnd

/-- Whether the document ends here. -/
def atDocumentEnd (c : Cursor) : Bool := c.atEnd || (c.column = 0 && endsDocument c.rest)

/-- Whether a dash that introduces an item stands here. -/
def atDash (c : Cursor) : Bool :=
  match c.rest with
  | '-' :: rest => gapAhead rest
  | _ => false

def at? (c : Cursor) (expected : Char) : Bool := c.rest.head? == some expected

/-- Goes over blanks, comments and line breaks, and a byte order mark that begins a line. Tabs count
as blanks as far as `tabs` says and, on further lines, if `inner` says so: they never indent. -/
def skipFrom (inner tabs comment : Bool) (column line : Nat) (fresh : Bool) : List Char → Cursor
  | [] => ⟨[], column, line, fresh⟩
  | c :: rest =>
    if isBreak c then skipFrom inner inner false 0 (line + 1) true rest
    else if comment || c = ' ' || (c = '\t' && tabs) || (c = '\ufeff' && column = 0) then
      skipFrom inner tabs comment (column + 1) line fresh rest
    else if c = '#' then skipFrom inner tabs true (column + 1) line fresh rest
    else ⟨c :: rest, column, line, fresh⟩

/-- The next content inside brackets. -/
def skipInner (c : Cursor) : Cursor := skipFrom true true false c.column c.line c.fresh c.rest

/-- The next content where indentation counts. Tabs may only follow something on the line. -/
def skip (c : Cursor) : Cursor := skipFrom false (!c.fresh) false c.column c.line c.fresh c.rest

/-- The next content behind a dash, which tabs do not separate from it. -/
def skipAfterDash (c : Cursor) : Cursor := skipFrom false false false c.column c.line c.fresh c.rest

/-- The next place on the line that holds no blank. -/
def skipBlanks (c : Cursor) : Cursor :=
  let blanks := (c.rest.takeWhile isBlank).length
  { c with rest := c.rest.drop blanks, column := c.column + blanks }

/-- The next content after something that has to be the last of its line. -/
def endLine? (c : Cursor) : Option Cursor :=
  let next := c.skip
  if next.startsLine then some next else none

end Cursor

end ProcessWatch.Yaml

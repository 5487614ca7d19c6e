import ProcessWatch.Text.Digits
import ProcessWatch.Yaml.Cursor

/-!
# YAML scalars

Plain scalars and scalars in single or double quotes. All three may go on over several lines: a
usual line break in them reads as a space, and the first of several reads as nothing. The separators
of lines and of paragraphs read as themselves.
-/

namespace ProcessWatch.Yaml

/-- Blanks and line breaks inside a scalar that were met last. -/
structure Gap where
  blanks : List Char
  breaks : List Char
  /-- Whether the first of the line breaks is escaped and reads as nothing. -/
  escaped : Bool

namespace Gap

def none : Gap := ⟨[], [], false⟩

def escapedBreak : Gap := ⟨[], ['\n'], true⟩

def isInLine (gap : Gap) : Bool := gap.breaks.isEmpty

def isEmpty (gap : Gap) : Bool := gap.blanks.isEmpty && gap.isInLine

/-- Adds a blank; blanks around line breaks do not count. -/
def addBlank (gap : Gap) (c : Char) : Gap :=
  if gap.isInLine then { gap with blanks := c :: gap.blanks } else gap

def addBreak (gap : Gap) (c : Char) : Gap := { gap with blanks := [], breaks := c :: gap.breaks }

/-- What a gap reads as, the last character first. -/
def fold (gap : Gap) : List Char :=
  match gap.breaks.getLast? with
  | Option.none => gap.blanks
  | some first =>
    if gap.escaped then gap.breaks.dropLast
    else if first ≠ '\n' then gap.breaks
    else if gap.breaks.length = 1 then [' ']
    else gap.breaks.dropLast

end Gap

/-! ## Plain scalars -/

/-- Whether a character has a meaning of its own inside brackets. -/
def isFlowIndicator (c : Char) : Bool := c ∈ [',', '[', ']', '\x7b', '\x7d']

/-- Whether a plain scalar can begin with a text. -/
def startsPlain (inner : Bool) : List Char → Bool
  | [] => false
  | c :: rest =>
    if c = '-' then !gapAhead rest
    else if c = '?' || c = ':' then !inner && !gapAhead rest
    else !isFlowIndicator c && c ∉
      ['#', '&', '*', '!', '|', '>', '\'', '"', '%', '@', '\x60', ' ', '\t'] && !isBreak c

/-- Whether a plain scalar ends before a colon that a text follows. -/
def colonEnds (inner : Bool) (rest : List Char) : Bool :=
  gapAhead rest || (inner && rest.head?.any fun c => isFlowIndicator c || c = '?')

/-- Reads a plain scalar on. `least` is the column from which on further lines belong to it. -/
def plainFrom (inner : Bool) (least column line : Nat) (chars : List Char) (gap : Gap) :
    List Char → String × Cursor
  | [] => (String.ofList chars.reverse, ⟨[], column, line, !gap.isInLine⟩)
  | c :: rest =>
    let outside := !gap.isInLine && !inner && column < least
    let done := (String.ofList chars.reverse, ⟨c :: rest, column, line, !gap.isInLine⟩)
    if isBreak c then plainFrom inner least 0 (line + 1) chars (gap.addBreak c) rest
    else if isBlank c then
      if outside && c = '\t' then done
      else plainFrom inner least (column + 1) line chars (gap.addBlank c) rest
    else if outside || (column = 0 && endsDocument (c :: rest)) || (c = '#' && !gap.isEmpty)
        || (c = ':' && colonEnds inner rest) || (inner && isFlowIndicator c) then done
    else plainFrom inner least (column + 1) line (c :: (gap.fold ++ chars)) .none rest

def plain? (inner : Bool) (least : Nat) (c : Cursor) : Option (Yaml × Cursor) :=
  if startsPlain inner c.rest then
    let (text, next) := plainFrom inner least c.column c.line [] .none c.rest
    some (.scalar false text, next)
  else none

/-! ## Scalars in single quotes -/

/-- Reads on behind a single quote. `closing` tells that the last character was a single quote: a
second one makes it part of the scalar. -/
def singleFrom (closing : Bool) (column line : Nat) (chars : List Char) (gap : Gap) :
    List Char → Option (String × Cursor)
  | [] => if closing then some (String.ofList chars.reverse, ⟨[], column, line, false⟩) else none
  | c :: rest =>
    if closing then
      if c = '\'' then singleFrom false (column + 1) line (c :: chars) .none rest
      else some (String.ofList chars.reverse, ⟨c :: rest, column, line, false⟩)
    else if c = '\'' then singleFrom true (column + 1) line (gap.fold ++ chars) .none rest
    else if isBreak c then singleFrom false 0 (line + 1) chars (gap.addBreak c) rest
    else if isBlank c then singleFrom false (column + 1) line chars (gap.addBlank c) rest
    else if column = 0 && endsDocument (c :: rest) then none
    else singleFrom false (column + 1) line (c :: (gap.fold ++ chars)) .none rest

/-! ## Scalars in double quotes -/

/-- The part of an escape that was read last. -/
inductive Escape where
  | none
  | backslash
  /-- Inside the hexadecimal number of a character, before its last `more + 1` digits. -/
  | code (more value : Nat)

/-- The character that a letter after a backslash stands for. -/
def simpleEscape? (c : Char) : Option Char :=
  [('0', '\x00'), ('a', '\x07'), ('b', '\x08'), ('t', '\t'), ('\t', '\t'), ('n', '\n'),
    ('v', '\x0b'), ('f', '\x0c'), ('r', '\r'), ('e', '\x1b'), (' ', ' '), ('"', '"'), ('/', '/'),
    ('\\', '\\'), ('N', '\u0085'), ('_', '\u00a0'), ('L', '\u2028'), ('P', '\u2029')].lookup c

/-- Number of digits that follow a letter after a backslash. -/
def codeLength? (c : Char) : Option Nat := [('x', 2), ('u', 4), ('U', 8)].lookup c

/-- The character of a number, if it has one. -/
def charOfCode? (code : Nat) : Option Char :=
  if code.isValidChar then some (Char.ofNat code) else Option.none

/-- Reads on behind a double quote. -/
def doubleFrom (escape : Escape) (column line : Nat) (chars : List Char) (gap : Gap) :
    List Char → Option (String × Cursor)
  | [] => Option.none
  | c :: rest =>
    match escape with
    | .backslash =>
      if isBreak c then doubleFrom .none 0 (line + 1) chars .escapedBreak rest
      else match simpleEscape? c, codeLength? c with
        | some plain, _ => doubleFrom .none (column + 1) line (plain :: chars) .none rest
        | Option.none, some length =>
          doubleFrom (.code (length - 1) 0) (column + 1) line chars .none rest
        | Option.none, Option.none => Option.none
    | .code more value =>
      match Text.hexDigit? c with
      | Option.none => Option.none
      | some digit =>
        let value := value * 16 + digit
        match more with
        | 0 =>
          match charOfCode? value with
          | some plain => doubleFrom .none (column + 1) line (plain :: chars) .none rest
          | Option.none => Option.none
        | more + 1 => doubleFrom (.code more value) (column + 1) line chars .none rest
    | .none =>
      if c = '"' then
        some (String.ofList (gap.fold ++ chars).reverse, ⟨rest, column + 1, line, false⟩)
      else if isBreak c then doubleFrom .none 0 (line + 1) chars (gap.addBreak c) rest
      else if isBlank c then doubleFrom .none (column + 1) line chars (gap.addBlank c) rest
      else if column = 0 && endsDocument (c :: rest) then Option.none
      else if c = '\\' then doubleFrom .backslash (column + 1) line (gap.fold ++ chars) .none rest
      else doubleFrom .none (column + 1) line (c :: (gap.fold ++ chars)) .none rest

/-! ## All scalars -/

def scalar? (inner : Bool) (least : Nat) (c : Cursor) : Option (Yaml × Cursor) :=
  let quoted := Option.map fun (text, next) => (Yaml.scalar true text, next)
  match c.rest with
  | '\'' :: rest => quoted (singleFrom false (c.column + 1) c.line [] .none rest)
  | '"' :: rest => quoted (doubleFrom .none (c.column + 1) c.line [] .none rest)
  | _ => plain? inner least c

end ProcessWatch.Yaml

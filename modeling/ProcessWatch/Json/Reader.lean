import ProcessWatch.Json.Numeral
import ProcessWatch.Text.Digits

/-!
# Reading JSON text

The reader takes one character at a time. Its state is the stack of arrays and objects that are
open and what it is in the middle of, so reading is a walk down the list of characters. A text that
ends too early is told apart from one that is wrong, and the state at the point where reading
stopped stays available: callers that want the first fields of a broken text find them there.
-/

namespace ProcessWatch.Json

/-- Why a text is not one JSON value. -/
inductive ReadError where
  /-- The text ends before the value does. -/
  | truncated
  /-- No JSON value goes on like this. -/
  | malformed
deriving Repr, DecidableEq

/-- An array or object that is open. -/
inductive Frame where
  /-- The items so far, the latest first. -/
  | array (items : List Json)
  /-- The fields so far, the latest first, and the name that was read last. -/
  | object (fields : List (String × Json)) (key : String)

/-- The part of an escape that was read last. -/
inductive Escape where
  | none
  | backslash
  /-- Inside the four digits of a code unit; `lead` is the unit before it if that was the first half
  of a pair. -/
  | unit (lead : Option Nat) (value seen : Nat)
  /-- After the first half of a pair. -/
  | pairBackslash (lead : Nat)
  | pairLetter (lead : Nat)

/-- What the reader is in the middle of. -/
inductive Scan where
  /-- A value has to start. -/
  | value
  /-- An item, or the end of an empty array. -/
  | itemOrEnd
  /-- A name, or the end of an empty object. -/
  | keyOrEnd
  | key
  | colon
  /-- A value is complete, and a comma or an end follows. -/
  | next
  /-- Inside a word, with the characters that have to follow. -/
  | word (rest : List Char) (value : Json)
  /-- Inside a string, with its characters so far, the latest first. -/
  | text (isKey : Bool) (chars : List Char) (escape : Escape)
  | numeral (n : Numeral)
  /-- The whole value is complete. -/
  | finished (value : Json)

structure Reader where
  stack : List Frame
  scan : Scan

namespace Reader

def initial : Reader := ⟨[], .value⟩

/-- Blanks may stand between any two parts of a text. -/
def isBlank (c : Char) : Bool := c = ' ' || c = '\n' || c = '\t' || c = '\r'

/-- Number of arrays and objects that may be open at once. -/
def depthLimit : Nat := 127

/-- Why a character cannot be taken. -/
inductive Refusal where
  | malformed
  /-- A digit of a code unit is wrong, after `seen` right ones. -/
  | codeUnit (seen : Nat)

/-- Hands a complete value to the array or object that it is part of. -/
def deliver (value : Json) : List Frame → Reader
  | [] => ⟨[], .finished value⟩
  | .array items :: outer => ⟨.array (value :: items) :: outer, .next⟩
  | .object fields key :: outer => ⟨.object ((key, value) :: fields) key :: outer, .next⟩

/-- Opens an array or object, as far as nesting goes. -/
def openFrame (stack : List Frame) (frame : Frame) (scan : Scan) : Except Refusal Reader :=
  if stack.length < depthLimit then .ok ⟨frame :: stack, scan⟩ else .error .malformed

def closeFrame (closer : Char) : List Frame → Except Refusal Reader
  | .array items :: outer =>
    if closer = ']' then .ok (deliver (.array items.reverse) outer) else .error .malformed
  | .object fields _ :: outer =>
    if closer = '\x7d' then .ok (deliver (.object fields.reverse) outer) else .error .malformed
  | [] => .error .malformed

def startValue (stack : List Frame) (c : Char) : Except Refusal Reader :=
  if c = '\x7b' then openFrame stack (.object [] "") .keyOrEnd
  else if c = '[' then openFrame stack (.array []) .itemOrEnd
  else if c = '"' then .ok ⟨stack, .text false [] .none⟩
  else if c = 'n' then .ok ⟨stack, .word ['u', 'l', 'l'] .null⟩
  else if c = 't' then .ok ⟨stack, .word ['r', 'u', 'e'] (.bool true)⟩
  else if c = 'f' then .ok ⟨stack, .word ['a', 'l', 's', 'e'] (.bool false)⟩
  else match Numeral.start? c with
    | some n => .ok ⟨stack, .numeral n⟩
    | none => .error .malformed

/-- Goes on after a complete value inside an array or object. -/
def afterValue (stack : List Frame) (c : Char) : Except Refusal Reader :=
  if isBlank c then .ok ⟨stack, .next⟩
  else if c = ',' then
    match stack with
    | .array _ :: _ => .ok ⟨stack, .value⟩
    | .object _ _ :: _ => .ok ⟨stack, .key⟩
    | [] => .error .malformed
  else closeFrame c stack

/-- Completes a string: it is a value, or the name of the next field. -/
def finishText (stack : List Frame) (isKey : Bool) (s : String) : Reader :=
  match isKey, stack with
  | true, .object fields _ :: outer => ⟨.object fields s :: outer, .colon⟩
  | _, stack => deliver (.string s) stack

/-- The character that a letter after a backslash stands for. -/
def simpleEscape? (c : Char) : Option Char :=
  match c with
  | '"' => some '"'
  | '\\' => some '\\'
  | '/' => some '/'
  | 'b' => some '\x08'
  | 'f' => some '\x0c'
  | 'n' => some '\n'
  | 'r' => some '\r'
  | 't' => some '\t'
  | _ => none

/-- Completes a code unit: a character, or the first half of a pair. Halves stand only in pairs. -/
def finishUnit (chars : List Char) (lead : Option Nat) (unit : Nat) :
    Except Refusal (List Char × Escape) :=
  let isLead := 0xd800 ≤ unit ∧ unit < 0xdc00
  let isTrail := 0xdc00 ≤ unit ∧ unit < 0xe000
  match lead with
  | none =>
    if isTrail then .error .malformed
    else if isLead then .ok (chars, .pairBackslash unit)
    else .ok (Char.ofNat unit :: chars, .none)
  | some first =>
    if isTrail then
      .ok (Char.ofNat ((first - 0xd800) * 0x400 + (unit - 0xdc00) + 0x10000) :: chars, .none)
    else .error .malformed

def takeText (stack : List Frame) (isKey : Bool) (chars : List Char) (c : Char) :
    Escape → Except Refusal Reader
  | .none =>
    if c = '"' then .ok (finishText stack isKey (String.ofList chars.reverse))
    else if c = '\\' then .ok ⟨stack, .text isKey chars .backslash⟩
    else if c.toNat < 0x20 then .error .malformed
    else .ok ⟨stack, .text isKey (c :: chars) .none⟩
  | .backslash =>
    if c = 'u' then .ok ⟨stack, .text isKey chars (.unit none 0 0)⟩
    else match simpleEscape? c with
      | some plain => .ok ⟨stack, .text isKey (plain :: chars) .none⟩
      | none => .error .malformed
  | .unit lead value seen =>
    match Text.hexDigit? c with
    | none => .error (.codeUnit seen)
    | some d =>
      -- the fourth digit completes the unit
      if seen < 3 then .ok ⟨stack, .text isKey chars (.unit lead (value * 16 + d) (seen + 1))⟩
      else do
        let (chars, escape) ← finishUnit chars lead (value * 16 + d)
        return ⟨stack, .text isKey chars escape⟩
  | .pairBackslash lead =>
    if c = '\\' then .ok ⟨stack, .text isKey chars (.pairLetter lead)⟩ else .error .malformed
  | .pairLetter lead =>
    if c = 'u' then .ok ⟨stack, .text isKey chars (.unit (some lead) 0 0)⟩ else .error .malformed

/-- Completes a number. Only the character behind it shows where it ends. -/
def settle (r : Reader) (c : Char) : Reader :=
  match r.scan with
  | .numeral n =>
    match n.take c, n.value? with
    | .complete, some parsed => deliver (.number parsed) r.stack
    | _, _ => r
  | _ => r

/-- Takes one character. -/
def step (r : Reader) (c : Char) : Except Refusal Reader :=
  match r.scan with
  | .value => if isBlank c then .ok r else startValue r.stack c
  | .itemOrEnd =>
    if isBlank c then .ok r
    else if c = ']' then closeFrame c r.stack
    else startValue r.stack c
  | .keyOrEnd =>
    if isBlank c then .ok r
    else if c = '\x7d' then closeFrame c r.stack
    else if c = '"' then .ok ⟨r.stack, .text true [] .none⟩
    else .error .malformed
  | .key =>
    if isBlank c then .ok r
    else if c = '"' then .ok ⟨r.stack, .text true [] .none⟩
    else .error .malformed
  | .colon =>
    if isBlank c then .ok r
    else if c = ':' then .ok ⟨r.stack, .value⟩
    else .error .malformed
  | .next => afterValue r.stack c
  -- no word gets here: the last of its characters completes it
  | .word [] value => .ok (deliver value r.stack)
  | .word [last] value => if c = last then .ok (deliver value r.stack) else .error .malformed
  | .word (w :: rest) value => if c = w then .ok ⟨r.stack, .word rest value⟩ else .error .malformed
  | .text isKey chars escape => takeText r.stack isKey chars c escape
  | .numeral n =>
    match n.take c with
    | .more n => .ok ⟨r.stack, .numeral n⟩
    -- a complete number was settled before, unless it is beyond all doubles
    | .complete | .malformed => .error .malformed
  | .finished _ => if isBlank c then .ok r else .error .malformed

/-- The end of the text, which also ends a number. -/
def finish (r : Reader) : Reader × Option ReadError :=
  match r.scan with
  | .finished _ => (r, none)
  | .numeral n =>
    if n.isComplete then
      match n.value? with
      | none => (r, some .malformed)
      | some parsed =>
        (deliver (.number parsed) r.stack, if r.stack.isEmpty then none else some .truncated)
    else (r, some .truncated)
  | _ => (r, some .truncated)

/-- Why reading stops at a refused character, given the text from there on. The four digits of a
code unit are looked at together, so a text with fewer than four bytes left for them is
truncated. -/
def Refusal.error (rest : List Char) : Refusal → ReadError
  | .malformed => .malformed
  | .codeUnit seen =>
    if seen + (String.ofList rest).utf8ByteSize < 4 then .truncated else .malformed

/-- Reads a text as far as it goes. -/
def run (r : Reader) : List Char → Reader × Option ReadError
  | [] => r.finish
  | c :: rest =>
    let r := r.settle c
    match r.step c with
    | .ok r => r.run rest
    | .error refusal => (r, some (refusal.error (c :: rest)))

/-- The field of the outermost object that was begun and not completed: its name, and an empty array
or object if its value began as one. -/
def begun? (r : Reader) : Option (String × Option Json) :=
  match r.stack.reverse with
  | .object _ key :: .array _ :: _ => some (key, some (.array []))
  | .object _ key :: .object _ _ :: _ => some (key, some (.object []))
  | [.object _ key] =>
    match r.scan with
    | .colon | .value | .word _ _ | .numeral _ | .text false _ _ => some (key, none)
    | _ => none
  | _ => none

def value? (r : Reader) : Option Json :=
  match r.scan with
  | .finished value => some value
  | _ => none

end Reader

mutual

/-- Merges the fields of one name in every object of a value: the first gives the place, the last
the value. -/
def collapse : Json → Json
  | .array items => .array (collapseItems items)
  | .object fields => .object (collapseFields [] fields)
  | value => value

def collapseItems : List Json → List Json
  | [] => []
  | item :: rest => collapse item :: collapseItems rest

/-- Adds fields one by one to those that were merged before. -/
def collapseFields (merged : Fields) : List (String × Json) → Fields
  | [] => merged
  | (key, value) :: rest => collapseFields (Fields.set key (collapse value) merged) rest

end

/-- Reads a text as far as it goes: where the reader stands, and why it stopped there. -/
def scanText (text : String) : Reader × Option ReadError := Reader.initial.run text.toList

/-- Reads a text that holds exactly one value. -/
def read (text : String) : Except ReadError Json :=
  match scanText text with
  | (_, some error) => .error error
  | (r, none) =>
    match r.value? with
    | some value => .ok value.collapse
    | none => .error .truncated

end ProcessWatch.Json

import ProcessWatch.Wire.Identity
import ProcessWatch.Wire.Snapshot

/-!
# The status of all processes

A status is an object with an entry a pid, or a plain list of entries. Its entries are read one by
one, so a bad one does not take the others with it: each entry becomes a snapshot with a pid or is
rejected, with the pid that it can be blamed on.
-/

namespace ProcessWatch

/-- The body of a status. -/
inductive Status where
  | byPid (entries : Fields)
  | list (entries : List Json)

/-- An entry that could not be read. -/
structure Rejected where
  /-- Whose entry it is, as far as its key or its field says. -/
  pid : Option Pid
  error : Mismatch
deriving Repr, DecidableEq

/-- The entries of a status, each read or rejected. -/
structure Entries where
  snapshots : List ProcessSnapshot
  rejected : List Rejected

/-- Reads a pid from ASCII digits, with leading zeros and a leading plus sign allowed. -/
def Pid.parse? (s : String) : Option Pid :=
  let digits := match s.toList with
    | '+' :: rest => rest
    | chars => chars
  if digits.isEmpty || !digits.all Char.isDigit then none
  else
    let n : Nat := digits.foldl (fun n c => n * 10 + (c.toNat - '0'.toNat)) 0
    if n < UInt32.size then some n.toUInt32 else none

namespace Status

def ofJson : Json → Except Mismatch Status
  | .object fields => .ok (.byPid fields)
  | .array items => .ok (.list items)
  | _ => .error .notStatus

/-- Reads a status from the text of an answer. -/
def ofText (text : String) : Except BodyError Status :=
  let (reader, error) := Json.scanText text
  match reader.value?, error with
  | some value, error =>
    -- the shape of the value counts before what follows it
    match ofJson value.collapse, error with
    | .error mismatch, _ => .error (.mismatch mismatch)
    | .ok _, some error => .error (.unreadable error)
    | .ok status, none => .ok status
  | none, error => .error (.unreadable (error.getD .truncated))

def toJson : Status → Json
  | .byPid entries => .object entries
  | .list entries => .array entries

end Status

namespace Entries

/-- Entries that are all readable. -/
def ofSnapshots (snapshots : List ProcessSnapshot) : Entries := ⟨snapshots, []⟩

def empty : Entries := ofSnapshots []

/-- The pid that the `pid` field of an entry holds, if it holds one. -/
def pidField? (entry : Json) : Option Pid :=
  match entry.field? "pid" with
  | some value => value.toWord32.toOption
  | none => none

/-- Reads an entry. Its pid is its `pid` field, else its key. -/
def readEntry (key : Option String) (entry : Json) : Except Rejected ProcessSnapshot :=
  let keyPid := key.bind Pid.parse?
  match ProcessSnapshot.ofJson entry with
  | .error error => .error ⟨(pidField? entry).or keyPid, error⟩
  | .ok snapshot =>
    match snapshot.pid.or keyPid with
    | some pid => .ok { snapshot with pid := some pid }
    | none => .error ⟨none, .missing "pid"⟩

/-- Sorts an entry to the snapshots or to the rejected entries. -/
def push (entries : Entries) (key : Option String) (entry : Json) : Entries :=
  match readEntry key entry with
  | .ok snapshot => { entries with snapshots := entries.snapshots ++ [snapshot] }
  | .error rejected => { entries with rejected := entries.rejected ++ [rejected] }

/-- Reads the entries of a status in order. -/
def ofStatus : Status → Entries
  | .byPid fields => fields.foldl (fun entries field => entries.push (some field.1) field.2) empty
  | .list items => items.foldl (fun entries item => entries.push none item) empty

end Entries

end ProcessWatch

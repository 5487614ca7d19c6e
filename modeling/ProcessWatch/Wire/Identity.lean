import ProcessWatch.Json.Reader
import ProcessWatch.Wire.Mismatch

/-!
# The identity of a process

The answer to a question for one process. It is read from the text of the answer field by field, so
of a text with several faults the first one counts: a field of the wrong shape is reported even if
the text breaks off behind it.
-/

namespace ProcessWatch

structure Identity where
  pid : Pid
  parent : Option Pid
  /-- The command line, usually a list of arguments. -/
  cmdline : Option Json
  workingDirectory : Option String
  /-- Any other field. -/
  fields : Fields
deriving Inhabited

/-- Why the body of an answer cannot be used. -/
inductive BodyError where
  /-- The body is not JSON. -/
  | unreadable (error : Json.ReadError)
  /-- The body is JSON of the wrong shape. -/
  | mismatch (error : Mismatch)
deriving Repr, DecidableEq

namespace Identity

/-- An identity of which some fields were read. -/
structure Draft where
  pid : Option Pid
  parent : Option (Option Pid)
  cmdline : Option (Option Json)
  workingDirectory : Option (Option String)
  fields : Fields

namespace Draft

def empty : Draft := ⟨none, none, none, none, []⟩

/-- Whether a typed field of this name was read before. -/
def hasTyped (draft : Draft) (key : String) : Bool :=
  match key with
  | "pid" => draft.pid.isSome
  | "parent_pid" => draft.parent.isSome
  | "cmdline" => draft.cmdline.isSome
  | "working_directory" => draft.workingDirectory.isSome
  | _ => false

/-- Refuses the name of a typed field that was read before. -/
def requireNew (draft : Draft) (key : String) : Except Mismatch Unit :=
  if draft.hasTyped key then .error (.duplicate key) else .ok ()

/-- Reads one field. -/
def read (draft : Draft) (key : String) (value : Json) : Except Mismatch Draft := do
  draft.requireNew key
  match key with
  | "pid" => return { draft with pid := some (← value.toWord32) }
  | "parent_pid" => return { draft with parent := some (← value.toOption Json.toWord32) }
  | "cmdline" => return { draft with cmdline := some (← value.toOption .ok) }
  | "working_directory" =>
    return { draft with workingDirectory := some (← value.toOption Json.toText) }
  | _ => return { draft with fields := Fields.set key value draft.fields }

/-- Reads fields in order, up to the first that does not fit. -/
def readAll (draft : Draft) : List (String × Json) → Except Mismatch Draft
  | [] => .ok draft
  | (key, value) :: rest => do (← draft.read key value).readAll rest

/-- The identity, which needs a pid. -/
def complete (draft : Draft) : Except Mismatch Identity :=
  match draft.pid with
  | none => .error (.missing "pid")
  | some pid =>
    .ok ⟨pid, draft.parent.join, draft.cmdline.join, draft.workingDirectory.join, draft.fields⟩

end Draft

def ofJson (value : Json) : Except Mismatch Identity := do
  let fields ← value.toFields .identity
  (← Draft.empty.readAll fields).complete

/-- Checks the fields of a text before the place where it breaks off. -/
def checkBegun (fields : List (String × Json)) (begun : Option (String × Option Json)) :
    Except Mismatch Unit := do
  let draft ← Draft.empty.readAll fields
  match begun with
  | none => return
  -- of the field that was begun only the name can be judged, and whether it is an array or object
  | some (key, none) => draft.requireNew key
  | some (key, some opened) => discard (draft.read key opened)

/-- What is wrong with a text that holds no complete value. -/
def brokenOff (reader : Json.Reader) (error : Json.ReadError) : BodyError :=
  match reader.stack.getLast? with
  | some (.array _) => .mismatch (.type .sequence .identity)
  | some (.object fields _) =>
    match checkBegun fields.reverse reader.begun? with
    | .error mismatch => .mismatch mismatch
    | .ok () => .unreadable error
  | none => .unreadable error

/-- Reads an identity from the text of an answer. -/
def ofText (text : String) : Except BodyError Identity :=
  let (reader, error) := Json.scanText text
  match reader.value?, error with
  | some (.object fields), error =>
    let fields := fields.map fun field => (field.1, field.2.collapse)
    -- the fields come as they are written, so one that is repeated is noticed
    match (do (← Draft.empty.readAll fields).complete : Except Mismatch Identity), error with
    | .error mismatch, _ => .error (.mismatch mismatch)
    | .ok _, some error => .error (.unreadable error)
    | .ok identity, none => .ok identity
  | some value, _ => .error (.mismatch (value.mismatch .identity))
  | none, error => .error (brokenOff reader (error.getD .truncated))

/-- Writes an identity: the typed fields, then the others. -/
def toJson (identity : Identity) : Json :=
  .object <|
    [("pid", Json.ofWord32 identity.pid)]
    ++ Json.optionalField "parent_pid" Json.ofWord32 identity.parent
    ++ Json.optionalField "cmdline" id identity.cmdline
    ++ Json.optionalField "working_directory" Json.string identity.workingDirectory
    ++ identity.fields

end Identity

end ProcessWatch

import ProcessWatch.CommandLine.Flag

/-!
# Reading a command line

Words are taken one after the other: flags, their values, a command and the flags behind it. A value
is looked at only when the next word shows that it is complete, so of several faults the first one
that is complete counts. What is not on the command line may be in environment variables.
-/

namespace ProcessWatch.CommandLine

abbrev Variables := String → Option String

/-- Something that was given and is not taken in yet. -/
inductive Pending where
  | flag (flag : Flag)
  | value (flag : Flag) (text : String)
  | argument (text : String)

/-- Where the reader stands, before a command or behind it. -/
structure Scan where
  given : Given
  pending : Option Pending
  /-- Whether the command has its argument. -/
  hasArgument : Bool
  /-- Whether no flags follow. -/
  plain : Bool

namespace Scan

def start : Scan := ⟨.none, none, false, false⟩

def settle (scan : Scan) : Except Refusal Given :=
  match scan.pending with
  | none => .ok scan.given
  | some (.flag _) => .error .invalidValue
  | some (.value flag text) => scan.given.take flag text
  | some (.argument text) => do return { scan.given with argument := some (← Value.word32 text) }

/-- Whether the next word is the value of a flag. -/
def awaited? (scan : Scan) : Option Flag :=
  match scan.pending with
  | some (.flag flag) => some flag
  | _ => none

end Scan

/-- What a word leads to. -/
inductive Step where
  | next (scan : Scan)
  | enter (command : Command)
  /-- The words that follow name what help is asked for. -/
  | helpAbout

def helpAbout : List String → Refusal
  | [] => .help
  | [name] => if name = "help" || (Command.ofName? name).isSome then .help else .unknownCommand
  | _ => .unknownCommand

/-- Takes a word that names a flag, with its value if that is attached. -/
def takeLong (command : Option Command) (scan : Scan) (word : List Char) : Except Refusal Scan := do
  let name := word.takeWhile (· ≠ '=')
  let attached := (word.drop name.length).tail?.map String.ofList
  let name := String.ofList name
  let asked : Option Refusal :=
    if name = "help" then some .help
    else if name = "version" && command.isNone then some .version
    else none
  match asked, attached with
  | some _, some _ => throw .unwantedValue
  | some refusal, none =>
    discard scan.settle
    throw refusal
  | none, attached =>
    match Flag.ofName? command name, attached with
    | none, _ => throw .unknownArgument
    | some flag, some text =>
      return { scan with given := ← (← scan.settle).take flag text, pending := none }
    | some flag, none => return { scan with given := ← scan.settle, pending := some (.flag flag) }

def takeShort (command : Option Command) (scan : Scan) (letter : Char) : Except Refusal Scan := do
  let asked : Refusal :=
    if letter = 'h' then .help
    else if letter = 'V' && command.isNone then .version
    else .unknownArgument
  if asked ≠ .unknownArgument then discard scan.settle
  throw asked

def takePlain (command : Option Command) (scan : Scan) (word : String) : Except Refusal Scan := do
  if command = some .basic && !scan.hasArgument then
    return { scan with
      given := ← scan.settle, pending := some (.argument word), hasArgument := true }
  else if command.isSome then throw .unknownArgument
  else if scan.plain && (word = "help" || (Command.ofName? word).isSome) then throw .unknownArgument
  else throw .unknownCommand

def step (command : Option Command) (scan : Scan) (word : String) : Except Refusal Step := do
  let entered := if command.isNone then Command.ofName? word else none
  match scan.plain, scan.awaited?, entered, word.toList with
  | true, _, _, _ => return .next (← takePlain command scan word)
  | false, none, some entered, _ => return .enter entered
  | false, _, _, ['-', '-'] => return .next { scan with plain := true }
  | false, _, _, '-' :: '-' :: long => return .next (← takeLong command scan long)
  | false, _, _, '-' :: letter :: _ => return .next (← takeShort command scan letter)
  | false, some flag, _, _ => return .next { scan with pending := some (.value flag word) }
  | false, none, none, _ =>
    if command.isNone && word = "help" then return .helpAbout
    else return .next (← takePlain command scan word)

def complete (vars : Variables) (command : Command) (given : Given) :
    Except Refusal Given := do
  let given ←
    match vars "PMON_INTERVAL_MS", given.preferences.interval with
    | some text, none => if command.tracks then given.take .interval text else .ok given
    | _, _ => .ok given
  if given.samples.isSome && given.pid.isNone then throw .missingFlag
  return given

/-- Why a command line without a command is refused. -/
def withoutCommand (vars : Variables) (given : Given) : Refusal :=
  let url := given.url <|> vars "PMON_URL"
  let name := given.configName <|> vars "PMON_CONFIG_NAME"
  if url.isSome || name.isSome || given.configPath.isSome then .missingCommand else .nothingAsked

/-- What is given before a command, the command and what is given behind it. -/
structure Words where
  before : Given
  command : Command
  behind : Given

def readBehind (vars : Variables) (command : Command) (scan : Scan) :
    List String → Except Refusal Given
  | [] => do complete vars command (← scan.settle)
  | word :: rest => do
    match ← step (some command) scan word with
    | .next scan => readBehind vars command scan rest
    | .enter _ | .helpAbout => throw .unknownArgument

/-- Reads words before a command, the command and the words behind it. -/
def readWords (vars : Variables) (scan : Scan) : List String → Except Refusal Words
  | [] => do throw (withoutCommand vars (← scan.settle))
  | word :: rest => do
    match ← step none scan word with
    | .next scan => readWords vars scan rest
    | .enter command =>
      let behind ← readBehind vars command .start rest
      return ⟨← scan.settle, command, behind⟩
    | .helpAbout => throw (helpAbout rest)

/-- Reads a command line without the name of the program. What stands behind the command goes before
what stands in front of it, and both go before environment variables. -/
def read (vars : Variables) (words : List String) : Except Refusal Invocation := do
  let ⟨before, command, behind⟩ ← readWords vars .start words
  return {
    url := behind.url <|> before.url <|> vars "PMON_URL"
    configName := behind.configName <|> before.configName <|> vars "PMON_CONFIG_NAME"
    configPath := behind.configPath <|> before.configPath
    job := behind.job command }

end ProcessWatch.CommandLine

import ProcessWatch.Config.Basic
import ProcessWatch.Notice

/-!
# Where the configuration is found

A file that is named has to be there. Otherwise the configuration is looked for in the directory for
configurations, where it may be missing.
-/

namespace ProcessWatch

inductive FileError where
  | missing
  | notDirectory
  | directory
  /-- Another reason, in the words of the system. -/
  | other (message : String)
deriving Repr, DecidableEq

namespace FileError

def message : FileError → String
  | missing => "No such file or directory (os error 2)"
  | notDirectory => "Not a directory (os error 20)"
  | directory => "Is a directory (os error 21)"
  | other message => message

end FileError

/-- Why there is no configuration. -/
inductive ConfigError where
  /-- There is no directory to look in. -/
  | homeUnknown
  /-- A file that was named cannot be read. -/
  | unreadable (path : String) (error : FileError)
  /-- The file in the directory for configurations is there and cannot be read. -/
  | unavailable (error : FileError)
  /-- A file is no configuration. -/
  | malformed (path : String)
deriving Repr, DecidableEq

namespace ConfigError

def message : ConfigError → String
  | homeUnknown => "HOME env variable not set"
  | unreadable path _ => "Failed to read config file at " ++ path
  | unavailable error => "Failed to load config: " ++ error.message
  | malformed path => "Failed to parse pmon config at " ++ path

def failure (error : ConfigError) : Failure :=
  match error with
  | homeUnknown => (⟨"environment variable not found"⟩ : Failure).within error.message
  | unreadable _ cause => (⟨cause.message⟩ : Failure).within error.message
  | unavailable _ | malformed _ => ⟨error.message⟩

end ConfigError

namespace Path

/-- A path below another one; an absolute path stands for itself. -/
def join (base path : String) : String :=
  if path.startsWith "/" then path
  else if base.isEmpty || base.endsWith "/" then base ++ path
  else base ++ "/" ++ path

/-- A path with the home directory in place of a tilde that stands alone at its start. -/
def expandHome (home : Option String) (path : String) : String :=
  match path.toList, home with
  | ['~'], some home => home
  | '~' :: '/' :: rest, some home => home ++ String.ofList ('/' :: rest)
  | _, _ => path

end Path

/-- What is said about where the configuration is. -/
structure ConfigSource where
  /-- The file itself. -/
  path : Option String
  /-- The name of a configuration in the directory for configurations. -/
  name : Option String
  home : Option String
  /-- The directory for configurations of all programs, if it is not in the home directory. -/
  base : Option String

namespace ConfigSource

def base? (source : ConfigSource) : Option String :=
  source.base <|> source.home.map (Path.join · ".config")

/-- The file for the configuration of a name. -/
def defaultPath? (source : ConfigSource) : Option String :=
  let file := source.name.elim "config.yaml" (· ++ ".yaml")
  source.base?.map fun base => Path.join (Path.join base "pmon") file

variable {m : Type → Type} [Monad m] (contentOf : String → m (Except FileError ByteArray))

def parse (path : String) (content : ByteArray) : Except ConfigError (Config × Notice) :=
  match Config.ofBytes? content with
  | some config => .ok (config, .configLoaded path)
  | none => .error (.malformed path)

/-- Loads the configuration, and tells which file it is from. -/
def load (source : ConfigSource) : m (Except ConfigError (Config × Notice)) := do
  match source.path, source.defaultPath? with
  | some path, _ =>
    let path := Path.expandHome (source.home.filter (!·.isEmpty)) path
    match ← contentOf path with
    | .ok content => return parse path content
    | .error error => return .error (.unreadable path error)
  | none, none => return .error .homeUnknown
  | none, some path =>
    match ← contentOf path with
    | .ok content => return parse path content
    | .error .missing => return .ok (.none, .configMissing path)
    | .error error => return .error (.unavailable error)

end ConfigSource

end ProcessWatch

import ProcessWatch.Url.Authority

/-!
# Reading addresses

Addresses are read as browsers read them: blanks around them and line breaks in them do not count,
hosts are put into one form, usual ports are left out, paths are followed through dots, and what may
not stand in a part is percent-encoded. What an address leaves out at its beginning it takes from
another one, its base.
-/

namespace ProcessWatch.Url

/-- The characters of a text that count. -/
def significant (text : String) : List Char :=
  let outer (c : Char) : Bool := c.toNat ≤ 0x20
  let trimmed := ((text.toList.dropWhile outer).reverse.dropWhile outer).reverse
  trimmed.filter fun c => c ∉ ['\t', '\n', '\r']

/-- The scheme that a text starts with, and what follows its colon. -/
def scheme? (text : List Char) : Option (String × List Char) :=
  let isPart (c : Char) : Bool := c.isAlphanum || c ∈ ['+', '-', '.']
  let name := text.takeWhile isPart
  match name, text.drop name.length with
  | first :: _, ':' :: rest =>
    if first.isAlpha then some ((String.ofList name).map Char.toLower, rest) else none
  | _, _ => none

/-! ## Paths and what follows them -/

/-- The end of an address: its query and its fragment. -/
def readTail (special : Bool) (text : List Char) : Option String × Option String :=
  let set := if special then specialQuerySet else querySet
  let before := text.takeWhile (· ≠ '#')
  let fragment := match text.drop before.length with
    | _ :: fragment => some (percentEncode fragmentSet (String.ofList fragment))
    | [] => none
  match before with
  | '?' :: query => (some (percentEncode set (String.ofList query)), fragment)
  | _ => (none, fragment)

/-- An address with another path, and with the query and the fragment that a text begins with. -/
def withTail (start : Url) (path : Path) (tail : List Char) : Url :=
  let (query, fragment) := readTail (isSpecial start.scheme) tail
  { start with path, query, fragment }

def endsPath (c : Char) : Bool := c = '?' || c = '#'

/-- Reads an address from within its path, where the segments lead on from a directory. The paths of
files do not begin with empty segments. -/
def readPath (start : Url) (directory : List String) (text : List Char) : Url :=
  let path := text.takeWhile fun c => !endsPath c
  let segments := (String.ofList path).split (isSlash (isSpecial start.scheme)) |>.toList
  let followed := follow start.hasDrives directory <|
    segments.map fun segment => percentEncode pathSet segment.toString
  start.withTail (.segments (if start.hasDrives then dropEmpty followed else followed))
    (text.drop path.length)

/-- Reads an address from behind its host. Only in a scheme without rules of its own the path can be
missing. -/
def readFromPath (start : Url) (text : List Char) : Url :=
  let special := isSpecial start.scheme
  if !special && text.head?.all endsPath then start.withTail (.segments []) text
  else
    match text with
    | c :: rest => start.readPath [] (if isSlash special c then rest else text)
    | [] => start.readPath [] []

def readFromHost (scheme : String) (text : List Char) : Except UrlError Url := do
  let special := isSpecial scheme
  let (user, text) ← readUser special text
  let (host, text) ← readHost special user.isEmpty text
  let (port, text) ← readPort scheme text
  return readFromPath ⟨scheme, user, some host, port, .segments [], none, none⟩ text

def readPlain (scheme : String) (text : List Char) : Url :=
  let path := text.takeWhile fun c => !endsPath c
  let start : Url := ⟨scheme, "", none, none, .segments [], none, none⟩
  start.withTail (.plain (percentEncode [] (String.ofList path))) (text.drop path.length)

/-! ## Addresses that lean on others -/

/-- How many slashes of either kind a text begins with. -/
def slashes (text : List Char) : Nat := (text.takeWhile (isSlash true)).length

/-- Reads an address that has the scheme of its base, and its host unless there are two slashes. -/
def readRelative (base : Url) (text : List Char) : Except UrlError Url :=
  match text with
  | [] => .ok { base with fragment := none }
  | '#' :: _ => .ok { base with fragment := (readTail true text).2 }
  | '?' :: _ => .ok (base.withTail base.path text)
  | _ =>
    match slashes text with
    | 0 => .ok (base.readPath base.directory text)
    | 1 => .ok (base.readPath [] (text.drop 1))
    | count =>
      -- behind two slashes the host begins at once, whatever it is
      readFromHost base.scheme (text.drop (if text.take 2 = ['/', '/'] then 2 else count))

/-! ## Files -/

/-- The address of the files of a host. An empty host is the one that the address is used on. -/
def filesOf (host : Host) : Url := ⟨"file", "", some host, none, .segments [], none, none⟩

/-- The address of the files of the host that it is used on. -/
def ownFiles : Url := filesOf (.domain "")

/-- Reads the address of a file that goes on with its host. A drive in the place of the host begins
the path, and one that begins the path is on the host that the address is used on. -/
def readFileFromHost (text : List Char) : Except UrlError Url := do
  let name := text.takeWhile fun c => !endsAuthority true c
  let rest := text.drop name.length
  if isDrive (String.ofList name) then return readPath ownFiles [] text
  let host ← if name.isEmpty then .ok (.domain "") else Host.readSpecial (String.ofList name)
  if host ∈ [.domain "", .domain "localhost"] then return readPath ownFiles [] rest
  let url := readFromPath (filesOf host) rest
  match url.path with
  | .segments (first :: _) =>
    return if isDrive first then { url with host := ownFiles.host } else url
  | _ => return url

/-- Reads the address of a file from the slash that begins its path. The drive, or else the host, is
that of the base, unless the path begins with a drive. -/
def readFileFromRoot (base : Option Url) (text : List Char) : Url :=
  match base with
  | none => readPath ownFiles [] text
  | some base =>
    let drive := base.directory.take 1 |>.filter fun first => isDrive first && first.endsWith ":"
    if startsWithDrive text then readPath ownFiles [] text
    else if drive.isEmpty then readPath (filesOf (base.host.getD (.domain ""))) [] text
    else readPath ownFiles drive text

def readFileUrl (base : Option Url) (text : List Char) : Except UrlError Url :=
  match slashes text with
  | 0 =>
    match base with
    | none => .ok (readPath ownFiles [] text)
    | some base =>
      if startsWithDrive text then .ok (readPath ownFiles [] text) else readRelative base text
  | 1 => .ok (readFileFromRoot base (text.drop 1))
  | _ => readFileFromHost (text.drop 2)

/-! ## Whole addresses -/

/-- Reads an address from behind its scheme. A base with the same scheme is leaned on if that has
rules of its own. -/
def readFromScheme (base : Option Url) (scheme : String) (text : List Char) : Except UrlError Url :=
  let base := base.filter (·.scheme = scheme)
  if scheme = "file" then readFileUrl base text
  else if isSpecial scheme then
    match base with
    | some base =>
      if slashes text < 2 then readRelative base text
      else readFromHost scheme (text.drop (slashes text))
    | none => readFromHost scheme (text.drop (slashes text))
  else
    match text with
    | '/' :: '/' :: rest => readFromHost scheme rest
    | '/' :: rest => .ok (readPath ⟨scheme, "", none, none, .segments [], none, none⟩ [] rest)
    | _ => .ok (readPlain scheme text)

/-- Reads an address. -/
def read (text : String) : Except UrlError Url :=
  match scheme? (significant text) with
  | some (scheme, rest) => readFromScheme none scheme rest
  | none => .error .relative

/-- The address that a text means below another address. -/
def join (base : Url) (text : String) : Except UrlError Url :=
  let text := significant text
  match scheme? text, base.path with
  | some (scheme, rest), _ => readFromScheme (some base) scheme rest
  | none, .plain _ => if text.head? = some '#' then readRelative base text else .error .closed
  | none, .segments _ =>
    if base.hasDrives then readFileUrl (some base) text else readRelative base text

end ProcessWatch.Url

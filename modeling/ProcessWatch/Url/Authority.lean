import ProcessWatch.Url.Basic

/-!
# Who and where

The part of an address between two slashes and its path: a user with a password, the host and the
port. Each is read from the beginning of a text and leaves the rest.
-/

namespace ProcessWatch.Url

def isSlash (special : Bool) (c : Char) : Bool := c = '/' || (special && c = '\\')

/-- Whether a character ends the host and what belongs to it. -/
def endsAuthority (special : Bool) (c : Char) : Bool := isSlash special c || c = '?' || c = '#'

/-- The user and the password before a host, with the sign that ends them. -/
def userText (text : List Char) : String :=
  let encode (text : List Char) : String := percentEncode userSet (String.ofList text)
  let name := text.takeWhile (· ≠ ':')
  let password := (text.drop name.length).drop 1
  let user := encode name ++ if password.isEmpty then "" else ":" ++ encode password
  if user.isEmpty then "" else user ++ "@"

/-- What stands before the last sign that separates a user from a host. -/
def userPart? (authority : List Char) : Option (List Char) :=
  match authority.reverse.dropWhile (· ≠ '@') with
  | _ :: user => some user.reverse
  | [] => none

/-- Reads the user. A sign without a user needs a host behind it, or nothing at all. -/
def readUser (special : Bool) (text : List Char) : Except UrlError (String × List Char) :=
  match userPart? (text.takeWhile fun c => !endsAuthority special c) with
  | none => .ok ("", text)
  | some user =>
    let rest := text.drop (user.length + 1)
    if user.isEmpty && rest.head?.any (endsAuthority special) then .error .emptyHost
    else .ok (userText user, rest)

/-- The text of a host, and what follows it. -/
def hostPart (special inside : Bool) : List Char → List Char × List Char
  | [] => ([], [])
  | c :: rest =>
    if endsAuthority special c || (c = ':' && !inside) then ([], c :: rest)
    else
      -- the colons of an IPv6 address stand in brackets
      let (host, rest) := hostPart special (c = '[' || (inside && c ≠ ']')) rest
      (c :: host, rest)

/-- Reads the host. It may be empty only in schemes without rules of their own, and only if there
is no user and no port; `alone` says whether there is no user. -/
def readHost (special alone : Bool) (text : List Char) : Except UrlError (Host × List Char) := do
  let (host, rest) := hostPart special false text
  if host.isEmpty && (special || !alone || rest.head? = some ':') then throw .emptyHost
  let read := if special then Host.readSpecial else Host.readOther
  return (← read (String.ofList host), rest)

/-- Reads the port; the usual one of the scheme does not count. -/
def readPort (scheme : String) : List Char → Except UrlError (Option Nat × List Char)
  | ':' :: text =>
    let digits := text.takeWhile Char.isDigit
    let rest := text.drop digits.length
    if !rest.head?.all (endsAuthority true) then .error .invalidPort
    else
      match Text.natural? 10 digits with
      -- a colon without digits stands for the usual port
      | none => .ok (none, rest)
      | some port =>
        if 65535 < port then .error .invalidPort
        else .ok (if specialSchemes.lookup scheme = some (some port) then none else some port, rest)
  | text => .ok (none, text)

end ProcessWatch.Url

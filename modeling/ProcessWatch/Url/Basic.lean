import ProcessWatch.Url.Host
import ProcessWatch.Url.Path

/-!
# Addresses

An address says where something is and how it is reached: a scheme, a host with what belongs to it,
and a path below which further addresses lie.
-/

namespace ProcessWatch

structure Url where
  scheme : String
  /-- The user and the password, as they are written before the host. -/
  user : String
  /-- The host, which not every scheme needs. -/
  host : Option Url.Host
  /-- The port, if it is not the usual one of the scheme. -/
  port : Option Nat
  path : Url.Path
  query : Option String
  fragment : Option String
deriving Repr, DecidableEq

namespace Url

/-- The schemes with rules of their own, and their usual ports. -/
def specialSchemes : List (String × Option Nat) :=
  [("http", some 80), ("https", some 443), ("ws", some 80), ("wss", some 443), ("ftp", some 21),
    ("file", none)]

/-- Whether a scheme has rules of its own. -/
def isSpecial (scheme : String) : Bool := (specialSchemes.lookup scheme).isSome

/-- Whether the paths of an address can begin with a drive. -/
def hasDrives (url : Url) : Bool := url.scheme = "file"

def hostText (url : Url) : String :=
  url.host.elim "" Host.text ++ url.port.elim "" fun port => ":" ++ toString port

/-- Writes the host with what belongs to it. A path that could be taken for a host is set apart. -/
def authorityText (url : Url) : String :=
  match url.host, url.path with
  | some _, _ => "//" ++ url.user ++ url.hostText
  | none, .segments ("" :: _ :: _) => "/."
  | none, _ => ""

def text (url : Url) : String :=
  url.scheme ++ ":" ++ url.authorityText ++ url.path.text
    ++ url.query.elim "" ("?" ++ ·) ++ url.fragment.elim "" ("#" ++ ·)

/-- The directory that an address lies in. -/
def directory (url : Url) : List String :=
  match url.path with
  | .segments path => path.dropLast
  | .plain _ => []

/-- An address whose path ends as that of a directory does, so that others lie below it. -/
def asDirectory (url : Url) : Url :=
  match url.path with
  | .segments path => { url with path := .segments (closed url.hasDrives path) }
  | .plain _ => url

end Url

end ProcessWatch

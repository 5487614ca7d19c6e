import ProcessWatch.Reply
import ProcessWatch.Url.Basic

/-!
# Requests in plain HTTP

The text of a request for a page and the reading of what comes back. The connection ends with the
reply, so a reply is read as a whole.
-/

namespace ProcessWatch.Http

def request (agent : String) (url : Url) : String :=
  let target := url.path.text ++ url.query.elim "" ("?" ++ ·)
  String.join <| List.map (· ++ "\r\n")
    ["GET " ++ target ++ " HTTP/1.0", "Host: " ++ url.hostText, "User-Agent: " ++ agent,
      "Accept: */*", ""]

/-! ## Requests that bring no reply -/

/-- Whether pages can be requested at an address. -/
def isWeb (url : Url) : Bool := url.scheme ∈ ["http", "https"]

/-- A request failed. The user and the password of the address are not told. -/
def failure (url : Url) (what reason : String) : Failure :=
  let told := { url with user := "" }
  ⟨"Request error: " ++ what ++ " for url (" ++ told.text ++ "): " ++ reason⟩

/-- A request that cannot be made. -/
def refusal (url : Url) : Failure := failure url "builder error" "URL scheme is not allowed"

/-- A request that was made in vain. -/
def interruption (url : Url) (reason : String) : Failure :=
  failure url "error sending request" reason

def closed : String := "connection closed before message completed"

/-! ## Replies -/

/-- The head of a reply and its body, which an empty line separates. -/
def splitHead : List UInt8 → Option (List UInt8 × List UInt8)
  | 13 :: 10 :: 13 :: 10 :: body => some ([], body)
  | byte :: rest => (splitHead rest).map fun (head, body) => (byte :: head, body)
  | [] => none

def status? (line : String) : Option Nat :=
  match line.splitOn " " with
  | version :: status :: _ => if version.startsWith "HTTP/" then status.toNat? else none
  | _ => none

def length? (lines : List String) : Option Nat :=
  lines.findSome? fun line =>
    match line.splitOn ":" with
    | [name, value] =>
      if name.map Char.toLower = "content-length" then value.trimAscii.toString.toNat? else none
    | _ => none

/-- Reads a reply. A body that is shorter than announced broke off. -/
def reply? (received : ByteArray) : Option Reply := do
  let (head, body) ← splitHead received.toList
  let lines := (← String.fromUTF8? ⟨head.toArray⟩).splitOn "\r\n"
  let status ← status? (← lines.head?)
  match length? lines with
  | some length =>
    if body.length < length then none else return ⟨status, ⟨(body.take length).toArray⟩⟩
  | none => return ⟨status, ⟨body.toArray⟩⟩

end ProcessWatch.Http

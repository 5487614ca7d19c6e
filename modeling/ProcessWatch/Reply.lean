import ProcessWatch.Notice
import ProcessWatch.Wire.Identity

/-!
# Replies of a web server

A reply is a status with a body. Statuses have phrases, and only some of them mean success.
-/

namespace ProcessWatch

/-- A reply to a request. -/
structure Reply where
  status : Nat
  body : ByteArray

namespace Reply

def phrases : List (Nat × String) :=
  [(100, "Continue"), (101, "Switching Protocols"), (102, "Processing"), (200, "OK"),
    (201, "Created"), (202, "Accepted"), (203, "Non Authoritative Information"),
    (204, "No Content"), (205, "Reset Content"), (206, "Partial Content"), (207, "Multi-Status"),
    (208, "Already Reported"), (226, "IM Used"), (300, "Multiple Choices"),
    (301, "Moved Permanently"), (302, "Found"), (303, "See Other"), (304, "Not Modified"),
    (305, "Use Proxy"), (307, "Temporary Redirect"), (308, "Permanent Redirect"),
    (400, "Bad Request"), (401, "Unauthorized"), (402, "Payment Required"), (403, "Forbidden"),
    (404, "Not Found"), (405, "Method Not Allowed"), (406, "Not Acceptable"),
    (407, "Proxy Authentication Required"), (408, "Request Timeout"), (409, "Conflict"),
    (410, "Gone"), (411, "Length Required"), (412, "Precondition Failed"),
    (413, "Payload Too Large"), (414, "URI Too Long"), (415, "Unsupported Media Type"),
    (416, "Range Not Satisfiable"), (417, "Expectation Failed"), (418, "I'm a teapot"),
    (421, "Misdirected Request"), (422, "Unprocessable Entity"), (423, "Locked"),
    (424, "Failed Dependency"), (426, "Upgrade Required"), (428, "Precondition Required"),
    (429, "Too Many Requests"), (431, "Request Header Fields Too Large"),
    (451, "Unavailable For Legal Reasons"), (500, "Internal Server Error"),
    (501, "Not Implemented"), (502, "Bad Gateway"), (503, "Service Unavailable"),
    (504, "Gateway Timeout"), (505, "HTTP Version Not Supported"),
    (506, "Variant Also Negotiates"), (507, "Insufficient Storage"), (508, "Loop Detected"),
    (510, "Not Extended"), (511, "Network Authentication Required")]

def statusText (status : Nat) : String :=
  toString status ++ " " ++ (phrases.lookup status).getD "<unknown status code>"

/-- Whether a reply brings what was asked for. -/
def isSuccess (reply : Reply) : Bool := 200 ≤ reply.status && reply.status < 300

/-- Whether the same request can succeed a little later. -/
def isTransient (reply : Reply) : Bool :=
  (500 ≤ reply.status && reply.status < 600) || reply.status = 408 || reply.status = 429

/-- What is wrong with a body, in words. -/
def bodyMessage : BodyError → String
  | .mismatch error => error.message
  | .unreadable .truncated => "unexpected end of JSON text"
  | .unreadable .malformed => "malformed JSON text"

/-- The value in the body of a reply from `url`. -/
def decode {α : Type} (ofText : String → Except BodyError α) (url : String) (reply : Reply) :
    Except Failure α :=
  if !reply.isSuccess then
    .error ⟨"The monitor answered " ++ statusText reply.status ++ " for " ++ url⟩
  else
    let value := match String.fromUTF8? reply.body with
      | some text => ofText text
      | none => .error (.unreadable .malformed)
    value.mapError fun error =>
      (⟨bodyMessage error⟩ : Failure).within ("Failed to parse the response of " ++ url)

end Reply

end ProcessWatch

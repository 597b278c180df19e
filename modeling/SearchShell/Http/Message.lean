import SearchShell.Deflate.Wrapper
import SearchShell.Http.Parameter
import SearchShell.Number.Binary64
import SearchShell.Number.Integer
import SearchShell.Text.Basic

/-!
# Requests and responses

What is sent to the search engine and what comes back.  A reply is a response or
a failure of the transport, or something interrupts the wait for it.
-/

set_option autoImplicit false

namespace SearchShell

/-! ## Interruptions

What stops a command before it is over.  An interruption is no fault: it is not reported in
an answer but goes through to whoever runs the commands. -/

inductive InterruptionCause where
  /-- The person at the keyboard asked to stop the command. -/
  | keyboard
  /-- The program is to end, for the reason with this name. -/
  | termination (name : Text)
deriving DecidableEq

structure Interruption where
  cause : InterruptionCause
  message : Text
deriving DecidableEq

/-! ## Messages -/

namespace Http

inductive Method where
  | get
  | post
  | put
  | delete
deriving DecidableEq

namespace Method

def name : Method → Text
  | get => text "GET"
  | post => text "POST"
  | put => text "PUT"
  | delete => text "DELETE"

end Method

structure Request where
  method : Method
  url : Text
  /-- The text of the body, empty when there is none. -/
  body : Text
  timeout : Binary64
deriving DecidableEq

inductive FailureFamily where
  | exchange
  | value
  | other
deriving DecidableEq

structure TransportFailure where
  family : FailureFamily
  name : Text
  message : Text
deriving DecidableEq

structure Response where
  status : Nat
  headers : List (Text × Text)
  body : Octets
deriving DecidableEq

inductive Reply where
  | response (response : Response)
  | failure (failure : TransportFailure)
  | interruption (interruption : Interruption)
deriving DecidableEq

/-- What the transport gives when its script has run out. -/
def Reply.exhausted : Reply :=
  .failure ⟨.other, text "RuntimeError", text "no scripted response"⟩

namespace Response

/-- The value of a header; the case of its name does not count, and several values are
joined. -/
def header? (response : Response) (name : String) : Option Text :=
  let values := (response.headers.filter fun header => header.1.toAsciiLower = text name).map
    Prod.snd
  if values.isEmpty then none else some (Text.joined (text ", ") values)

def headerFault? (response : Response) : Option Unencodable :=
  response.headers.findSome? fun header =>
    (Unencodable.find? .ascii 0 header.1).or (Unencodable.find? .ascii 0 header.2)

def isSuccess (response : Response) : Bool := 200 ≤ response.status && response.status ≤ 299

/-- The body as text, by the charset that the content type names, or else as UTF-8. -/
def content (response : Response) : Except CharsetFault Text :=
  if response.body.isEmpty then .ok []
  else do (← charsetOf (response.header? "content-type")).decode response.body

end Response

end Http

/-! ## Content codings

The body of a response can come compressed, several times over.  A header tells in which
order that was done. -/

namespace Http

inductive Coding where
  | gzip
  | deflate
deriving DecidableEq

namespace Coding

/-- The coding of a name; one that is not known leaves the body as it is. -/
def ofName? (name : Text) : Option Coding :=
  if name = text "gzip" then some gzip
  else if name = text "deflate" then some deflate
  else none

/-- The octets that were coded.  What is called deflated should have a wrapper, but need
not. -/
def expand (octets : Octets) : Coding → Except DeflateFault Octets
  | gzip => Deflate.expandGzip octets
  | deflate => match Deflate.expandZlib octets with
      | .ok expanded => .ok expanded
      | .error _ => Deflate.expandRaw octets

end Coding

namespace Response

/-- The codings of the body, the last one first. -/
def codings (response : Response) : List Coding :=
  match response.header? "content-encoding" with
  | none => []
  | some value => ((Text.pieces ',' value).filterMap fun name =>
      Coding.ofName? name.trim.toAsciiLower).reverse

def expanded (response : Response) : Except DeflateFault Response := do
  return { response with body := ← response.codings.foldlM Coding.expand response.body }

end Response

end Http

/-! ## Rejected responses

A response outside 200 to 299 rejects the request.  The message says so with the
status and its reason phrase, the address that was asked and where to read more. -/

namespace Http

def reasonPhrases : List (Nat × String) := [
  (100, "Continue"), (101, "Switching Protocols"), (102, "Processing"), (103, "Early Hints"),
  (200, "OK"), (201, "Created"), (202, "Accepted"), (203, "Non-Authoritative Information"),
  (204, "No Content"), (205, "Reset Content"), (206, "Partial Content"), (207, "Multi-Status"),
  (208, "Already Reported"), (226, "IM Used"),
  (300, "Multiple Choices"), (301, "Moved Permanently"), (302, "Found"), (303, "See Other"),
  (304, "Not Modified"), (305, "Use Proxy"), (307, "Temporary Redirect"),
  (308, "Permanent Redirect"),
  (400, "Bad Request"), (401, "Unauthorized"), (402, "Payment Required"), (403, "Forbidden"),
  (404, "Not Found"), (405, "Method Not Allowed"), (406, "Not Acceptable"),
  (407, "Proxy Authentication Required"), (408, "Request Timeout"), (409, "Conflict"),
  (410, "Gone"), (411, "Length Required"), (412, "Precondition Failed"),
  (413, "Request Entity Too Large"), (414, "Request-URI Too Long"),
  (415, "Unsupported Media Type"), (416, "Requested Range Not Satisfiable"),
  (417, "Expectation Failed"), (418, "I'm a teapot"), (421, "Misdirected Request"),
  (422, "Unprocessable Entity"), (423, "Locked"), (424, "Failed Dependency"),
  (425, "Too Early"), (426, "Upgrade Required"), (428, "Precondition Required"),
  (429, "Too Many Requests"), (431, "Request Header Fields Too Large"),
  (451, "Unavailable For Legal Reasons"),
  (500, "Internal Server Error"), (501, "Not Implemented"), (502, "Bad Gateway"),
  (503, "Service Unavailable"), (504, "Gateway Timeout"), (505, "HTTP Version Not Supported"),
  (506, "Variant Also Negotiates"), (507, "Insufficient Storage"), (508, "Loop Detected"),
  (510, "Not Extended"), (511, "Network Authentication Required")]

def reasonPhrase (status : Nat) : Text := text ((reasonPhrases.lookup status).getD "")

def statusClass (status : Nat) : Text :=
  match status / 100 with
  | 1 => text "Informational response"
  | 3 => text "Redirect response"
  | 4 => text "Client error"
  | 5 => text "Server error"
  | _ => text "Invalid status code"

def redirectStatuses : List Nat := [301, 302, 303, 307, 308]

namespace Response

def redirect? (response : Response) : Option Text :=
  if redirectStatuses.contains response.status then response.header? "location" else none

end Response

structure Received where
  url : Text
  response : Response
deriving DecidableEq

namespace Received

def message (received : Received) : Text :=
  let status := Text.ofNat received.response.status
  statusClass received.response.status ++ text " '" ++ status ++ text " " ++
    reasonPhrase received.response.status ++ text "' for url '" ++ received.url ++ text "'\n" ++
    (match received.response.redirect? with
      | some location => text "Redirect location: '" ++ location ++ text "'\n"
      | none => []) ++
    text "For more information check: https://developer.mozilla.org/en-US/docs/Web/HTTP/Status/" ++
    status

def summary (received : Received) : Except CharsetFault Text :=
  received.response.content.map fun content =>
    Text.ofNat received.response.status ++ text " " ++ content

end Received

end Http

end SearchShell

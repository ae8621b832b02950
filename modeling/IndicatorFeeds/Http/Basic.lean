import IndicatorFeeds.Json.Tree
import IndicatorFeeds.Url.Basic

namespace IndicatorFeeds.Http

inductive Method where
  | get | head | put | post | delete
deriving Repr, DecidableEq

def Method.name : Method → String
  | get => "GET"
  | head => "HEAD"
  | put => "PUT"
  | post => "POST"
  | delete => "DELETE"

/-- A request as it is sent. -/
structure Request where
  method : Method
  url : Url
  userAgent : Option String := none
  contentType : Option String := none
  body : Option String := none
deriving Repr, DecidableEq

structure Reply where
  status : Nat
  body : List UInt8
  /-- Whether the body has arrived as long as announced. -/
  complete : Bool
deriving Repr, DecidableEq

/-- The words that go with a status. -/
def reasons : List (Nat × String) := [
  (100, "Continue"), (101, "Switching Protocols"), (102, "Processing"), (103, "Early Hints"),
  (200, "OK"), (201, "Created"), (202, "Accepted"), (203, "Non Authoritative Information"),
  (204, "No Content"), (205, "Reset Content"), (206, "Partial Content"), (207, "Multi-Status"),
  (208, "Already Reported"), (226, "IM Used"), (300, "Multiple Choices"),
  (301, "Moved Permanently"), (302, "Found"), (303, "See Other"), (304, "Not Modified"),
  (305, "Use Proxy"), (307, "Temporary Redirect"), (308, "Permanent Redirect"),
  (400, "Bad Request"), (401, "Unauthorized"), (402, "Payment Required"), (403, "Forbidden"),
  (404, "Not Found"), (405, "Method Not Allowed"), (406, "Not Acceptable"),
  (407, "Proxy Authentication Required"), (408, "Request Timeout"), (409, "Conflict"),
  (410, "Gone"), (411, "Length Required"), (412, "Precondition Failed"),
  (413, "Payload Too Large"), (414, "URI Too Long"), (415, "Unsupported Media Type"),
  (416, "Range Not Satisfiable"), (417, "Expectation Failed"), (418, "I'm a teapot"),
  (421, "Misdirected Request"), (422, "Unprocessable Entity"), (423, "Locked"),
  (424, "Failed Dependency"), (425, "Too Early"), (426, "Upgrade Required"),
  (428, "Precondition Required"), (429, "Too Many Requests"),
  (431, "Request Header Fields Too Large"), (451, "Unavailable For Legal Reasons"),
  (500, "Internal Server Error"), (501, "Not Implemented"), (502, "Bad Gateway"),
  (503, "Service Unavailable"), (504, "Gateway Timeout"), (505, "HTTP Version Not Supported"),
  (506, "Variant Also Negotiates"), (507, "Insufficient Storage"), (508, "Loop Detected"),
  (510, "Not Extended"), (511, "Network Authentication Required")]

/-- A status with its words. -/
def statusText (status : Nat) : String :=
  s!"{status} " ++ (reasons.lookup status).getD "<unknown status code>"

namespace Reply

def isSuccess (r : Reply) : Bool := 200 ≤ r.status && r.status < 300

/-- The error of a status that reports one. -/
def statusError? (r : Reply) (url : Url) : Option String :=
  let words := (reasons.lookup r.status).getD ""
  let error (side : String) :=
    some s!"HTTP status {side} error ({r.status} {words}) for url ({url.text})"
  if 400 ≤ r.status && r.status < 500 then error "client"
  else if 500 ≤ r.status && r.status < 600 then error "server"
  else none

/-- What is said of a body that cannot be read. -/
def unreadable : String := "error decoding response body"

def json? (r : Reply) : Option Json.Tree :=
  if r.complete then (Text.decodeUtf8 r.body).toOption.bind Json.Tree.parse? else none

end Reply

private def isReadable (component : String) : Bool :=
  (Text.decodeUtf8 (Url.percentDecode component.toList)).isOk

/-- The URL that requests are sent to: without a user whose name can be read. -/
def target (url : Url) : Url :=
  match url.authority with
  | some a =>
    if isReadable a.username && (!a.username.isEmpty || a.password.any isReadable) then
      url.withoutUser
    else url
  | none => url

/-- The characters of a host that requests cannot carry. -/
private def isUnsendable (c : Char) : Bool :=
  c = '"' || c = '{' || c = '}' || c = '`'

/-- Whether requests can be sent to a URL: its scheme is that of the protocol, and it is neither
too long nor has it a host of characters that the protocol cannot carry. -/
def canSend (url : Url) : Bool :=
  (url.scheme = "http" || url.scheme = "https") &&
    url.withoutFragment.text.utf8ByteSize ≤ 65534 &&
    match url.host? with
    | some host => !host.text.toList.any isUnsendable
    | none => false

/-- What is said of a URL that no request can be made for. -/
def unusableUrl (url : Url) : String := s!"builder error for url ({url.text})"

/-- What is said of a request that nothing comes back from. -/
def unanswered (url : Url) : String := s!"error sending request for url ({url.text})"

/-- A request for a URL with fields added to its query, or why there is none. -/
def prepare (method : Method) (url : Url) (fields : List (String × String)) :
    Except String Request :=
  if url.host?.isNone then .error (unusableUrl url)
  else
    let url := fields.foldl (fun url (name, value) => url.withField name value) (target url)
    if canSend url then .ok { method, url } else .error (unusableUrl url)

/-- Whether a text may name the sender of requests: it has no controls but tabs. -/
def isUserAgent (name : String) : Bool :=
  name.toList.all fun c => c = '\t' || (0x20 ≤ c.toNat && c.toNat ≠ 0x7f)

end IndicatorFeeds.Http

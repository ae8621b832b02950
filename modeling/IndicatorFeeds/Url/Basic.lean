import IndicatorFeeds.Url.Encoding

namespace IndicatorFeeds

/-- What a URL may name as its host. -/
inductive Host where
  /-- A registered name; it is empty where the URL leaves the host out. -/
  | domain (name : String)
  | ipv4 (address : UInt32)
  /-- Eight pieces of 16 bits. -/
  | ipv6 (pieces : List Nat)
deriving Repr, DecidableEq

namespace Host

/-- The longest run of zero pieces, as its start and length, the first one of equals. -/
private def longestZeros (pieces : List Nat) : Nat × Nat :=
  let runs := (List.range pieces.length).map fun i =>
    (i, ((pieces.drop i).takeWhile (· == 0)).length)
  runs.foldl (fun best run => if run.2 > best.2 then run else best) (0, 0)

private def hexText (n : Nat) : String := String.ofList (Nat.toDigits 16 n)

private def hexJoin (pieces : List Nat) : String := ":".intercalate (pieces.map hexText)

/-- An address of eight pieces; two or more zeros in a row are left out once. -/
def ipv6Text (pieces : List Nat) : String :=
  let (start, count) := longestZeros pieces
  if count < 2 then hexJoin pieces
  else hexJoin (pieces.take start) ++ "::" ++ hexJoin (pieces.drop (start + count))

def ipv4Text (address : UInt32) : String :=
  let n := address.toNat
  s!"{n / 16777216}.{n / 65536 % 256}.{n / 256 % 256}.{n % 256}"

/-- The text of a host; an address of eight pieces stands in brackets. -/
def text : Host → String
  | .domain name => name
  | .ipv4 address => ipv4Text address
  | .ipv6 pieces => "[" ++ ipv6Text pieces ++ "]"

end Host

namespace Url

/-- Why a text is no URL. -/
inductive Refusal where
  | emptyHost
  | internationalDomain
  | port
  | ipv4
  | ipv6
  | domainCharacter
  /-- There is no scheme, and nothing it could be relative to. -/
  | relativeWithoutBase
  /-- It is relative to a URL that nothing can be relative to. -/
  | relativeToPlain
deriving Repr, DecidableEq

def Refusal.message : Refusal → String
  | emptyHost => "empty host"
  | internationalDomain => "invalid international domain name"
  | port => "invalid port number"
  | ipv4 => "invalid IPv4 address"
  | ipv6 => "invalid IPv6 address"
  | domainCharacter => "invalid domain character"
  | relativeWithoutBase => "relative URL without a base"
  | relativeToPlain => "relative URL with a cannot-be-a-base base"

/-- Who is addressed: a host, a port unless it is the scheme's own, and perhaps a user. -/
structure Authority where
  username : String
  password : Option String
  host : Host
  port : Option UInt16
deriving Repr, DecidableEq

/-- What is addressed there. -/
inductive Path where
  /-- Text without a structure, as in a mail address. -/
  | plain (text : String)
  /-- The segments, each with a slash before it. -/
  | segments (names : List String)
deriving Repr, DecidableEq

end Url

structure Url where
  scheme : String
  authority : Option Url.Authority
  path : Url.Path
  query : Option String
  fragment : Option String
deriving Repr, DecidableEq

namespace Url

/-- Schemes by how their URLs are read. -/
inductive Kind where
  | file
  /-- The other schemes of the web. -/
  | special
  | other
deriving Repr, DecidableEq

/-- The kind of a scheme. -/
def kindOf (scheme : String) : Kind :=
  if scheme = "file" then .file
  else if ["http", "https", "ws", "wss", "ftp"].contains scheme then .special
  else .other

def Kind.isSpecial (k : Kind) : Bool := k ≠ .other

def defaultPort? (scheme : String) : Option Nat :=
  [("http", 80), ("ws", 80), ("https", 443), ("wss", 443), ("ftp", 21)].lookup scheme

/-- The part before the host, with the sign that ends it. -/
def Authority.userText (a : Authority) : String :=
  match a.password with
  | some password => a.username ++ ":" ++ password ++ "@"
  | none => if a.username.isEmpty then "" else a.username ++ "@"

def Authority.text (a : Authority) : String :=
  a.userText ++ a.host.text ++ match a.port with
    | some port => s!":{port.toNat}"
    | none => ""

def Path.text : Path → String
  | plain text => text
  | segments names => String.join (names.map ("/" ++ ·))

/-- The text before the path. Without an authority, a path that starts with two slashes has a dot
before it, so that it is not read as one. -/
def authorityText (u : Url) : String :=
  match u.authority, u.path with
  | some a, _ => "//" ++ a.text
  | none, .segments ("" :: _ :: _) => "/."
  | none, _ => ""

def text (u : Url) : String :=
  u.scheme ++ ":" ++ u.authorityText ++ u.path.text ++
    (match u.query with | some q => "?" ++ q | none => "") ++
    (match u.fragment with | some f => "#" ++ f | none => "")

def host? (u : Url) : Option Host :=
  match u.authority with
  | some a => if a.host = .domain "" then none else some a.host
  | none => none

/-- The same URL without a user. -/
def withoutUser (u : Url) : Url :=
  { u with authority := u.authority.map fun a => { a with username := "", password := none } }

def withoutFragment (u : Url) : Url := { u with fragment := none }

def withField (u : Url) (name value : String) : Url :=
  let field := String.ofList (formEncode name ++ '=' :: formEncode value)
  { u with query := some (match u.query with
    | none => field
    | some q => if q.isEmpty then field else q ++ "&" ++ field) }

/-- The same URL with a path that ends in a slash. -/
def asDirectory (u : Url) : Url :=
  { u with path := match u.path with
    | .plain text => .plain (if text.endsWith "/" then text else text ++ "/")
    | .segments names => .segments (if names.getLast? = some "" then names else names ++ [""]) }

end Url

end IndicatorFeeds

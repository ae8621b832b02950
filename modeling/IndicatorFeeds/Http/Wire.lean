import IndicatorFeeds.Http.Basic
import IndicatorFeeds.Text.Blank
import IndicatorFeeds.Url.Host

namespace IndicatorFeeds.Http

private def lineBreak : String := "\r\n"

/-- What is asked for at the host. -/
private def resource (url : Url) : String :=
  (if url.path.text.isEmpty then "/" else url.path.text) ++ match url.query with
    | some query => "?" ++ query
    | none => ""

private def hostField (url : Url) : String :=
  match url.withoutUser.authority with
  | some a => a.text
  | none => ""

def Request.wire (r : Request) : ByteArray :=
  let body := r.body.getD ""
  let fields := [("host", some (hostField r.url)), ("user-agent", r.userAgent),
    ("accept", some "*/*"), ("content-type", r.contentType),
    ("content-length", r.body.map fun body => toString body.utf8ByteSize),
    ("connection", some "close")]
  let lines := s!"{r.method.name} {resource r.url} HTTP/1.1" ::
    fields.filterMap fun (name, value) => value.map fun value => name ++ ": " ++ value
  (String.join (lines.map (· ++ lineBreak)) ++ lineBreak ++ body).toUTF8

/-- The bytes before the first empty line, and those after it. -/
private def splitHead (done : List UInt8) : List UInt8 → Option (List UInt8 × List UInt8)
  | 13 :: 10 :: 13 :: 10 :: rest => some (done.reverse, rest)
  | b :: rest => splitHead (b :: done) rest
  | [] => none

private def asciiText (bytes : List UInt8) : String :=
  String.ofList (bytes.map fun b => Char.ofNat b.toNat)

private def lower (s : String) : String := s.map Char.toLower

private def headFields (lines : List String) : List (String × String) :=
  lines.filterMap fun line =>
    match line.toList.dropWhile (· ≠ ':') with
    | _ :: value =>
      some (lower (String.ofList (line.toList.takeWhile (· ≠ ':'))),
        Text.trim (String.ofList value))
    | [] => none

/-- The status that the first line of a reply names. -/
private def statusOf (line : String) : Option Nat :=
  match line.toList.splitOn ' ' with
  | _ :: status :: _ => Url.numberIn 10 status
  | _ => none

private def readChunks : Nat → List UInt8 → List UInt8 × Bool
  | 0, _ => ([], false)
  | fuel + 1, bytes =>
    let isSizeDigit (b : UInt8) : Bool := (Url.numberIn 16 [Char.ofNat b.toNat]).isSome
    match Url.numberIn 16 ((bytes.takeWhile isSizeDigit).map fun b => Char.ofNat b.toNat),
        bytes.dropWhile (· ≠ 10) with
    | some 0, _ => ([], true)
    | some size, _ :: rest =>
      if rest.length < size then (rest, false)
      else
        let (more, complete) := readChunks fuel (rest.drop (size + 2))
        (rest.take size ++ more, complete)
    | _, _ => ([], false)

/-- The body that a head announces, and whether all of it has arrived. -/
private def readBody (fields : List (String × String)) (rest : List UInt8) : List UInt8 × Bool :=
  if (fields.lookup "transfer-encoding").map lower = some "chunked" then
    readChunks rest.length rest
  else match (fields.lookup "content-length").bind fun n => Url.numberIn 10 n.toList with
    | some size => (rest.take size, size ≤ rest.length)
    | none => (rest, true)

def Reply.ofBytes? (method : Method) (bytes : List UInt8) : Option Reply := do
  let (head, rest) ← splitHead [] bytes
  match ((asciiText head).splitOn lineBreak) with
  | [] => none
  | first :: lines =>
    let status ← statusOf first
    if method = .head || status = 204 || status = 304 then return ⟨status, [], true⟩
    let (body, complete) := readBody (headFields lines) rest
    return ⟨status, body, complete⟩

end IndicatorFeeds.Http

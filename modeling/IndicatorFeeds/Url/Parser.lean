import IndicatorFeeds.Url.Host

namespace IndicatorFeeds.Url

/-- Whether a character inside a URL is passed over. -/
def isPassedOver (c : Char) : Bool := c = '\t' || c = '\n' || c = '\r'

/-- The characters that are not passed over. -/
def shown (cs : List Char) : List Char := cs.filter (!isPassedOver ·)

/-- The text without the controls and spaces at its ends. -/
def trimmed (cs : List Char) : List Char :=
  let isEdge (c : Char) : Bool := c.toNat ≤ 0x20
  ((cs.dropWhile isEdge).reverse.dropWhile isEdge).reverse

/-- The scheme at the head of a text, in lower case, and what follows its colon. -/
def scheme? (cs : List Char) : Option (String × List Char) :=
  let isSchemeChar (c : Char) : Bool := c.isAlphanum || c = '+' || c = '-' || c = '.'
  let name := cs.takeWhile isSchemeChar
  match name, cs.dropWhile isSchemeChar with
  | first :: _, ':' :: rest =>
    if first.isAlpha then some (String.ofList (name.map Char.toLower), rest) else none
  | _, _ => none

/-- Whether a character parts segments of a path. -/
def isSlash (k : Kind) (c : Char) : Bool := c = '/' || (c = '\\' && k.isSpecial)

private def isAnySlash (c : Char) : Bool := c = '/' || c = '\\'

/-- Whether a segment stands for the one it is in. -/
def isSingleDot (segment : List Char) : Bool :=
  let s := segment.map Char.toLower
  s = ['.'] || s = ['%', '2', 'e']

/-- Whether a segment stands for the one before it. -/
def isDoubleDot (segment : List Char) : Bool :=
  match segment.map Char.toLower with
  | '.' :: rest => isSingleDot rest
  | '%' :: '2' :: 'e' :: rest => isSingleDot rest
  | _ => false

/-- Whether a segment is the letter of a drive. -/
def isDriveLetter : List Char → Bool
  | [letter, mark] => letter.isAlpha && (mark = ':' || mark = '|')
  | _ => false

/-- Whether a segment is the letter of a drive, or starts with it and a backslash. -/
private def hasDriveLetter (segment : String) : Bool :=
  let cs := segment.toList
  isDriveLetter (cs.take 2) && (cs.drop 2).head?.all (· = '\\')

private def isPlainDriveLetter (segment : String) : Bool :=
  match segment.toList with
  | [letter, ':'] => letter.isAlpha
  | _ => false

/-- The segments without the last one, which stays if it is the letter of a drive. -/
def withoutLast (segments : List String) : List String :=
  if segments.getLast?.any hasDriveLetter then segments else segments.dropLast

/-- Segments as they have been read so far. -/
structure Segments where
  names : List String := []
  /-- Whether the letter of a drive has been found where the path of a file starts. -/
  hasDrive : Bool := false

namespace Segments

private def add (s : Segments) (segment : List Char) : Segments :=
  { s with names := s.names ++ [String.ofList (percentEncode inPath segment)] }

/-- The segments with one more that is neither dot. -/
private def addNamed (k : Kind) (s : Segments) (segment : List Char) : Segments :=
  match k, s.names, segment with
  | .file, [], [letter, mark] =>
    if isDriveLetter [letter, mark] then ⟨[String.ofList [letter, ':']], true⟩
    else s.add segment
  | _, _, _ => s.add segment

/-- The letter of a drive and what follows it, if a character that is passed over stands between
them. -/
private def partedDrive? (segment : List Char) : Option (List Char × List Char) :=
  match segment.dropWhile isPassedOver with
  | letter :: rest =>
    match rest.dropWhile isPassedOver with
    | ':' :: c :: rest =>
      let tail := shown rest
      if letter.isAlpha && isPassedOver c && !tail.isEmpty then some ([letter, ':'], tail)
      else none
    | _ => none
  | [] => none

/-- The segments of a path that goes on with these; dots are followed as they come. A drive at the
start of a file's path that is parted from what follows it is a segment by itself, and what follows
is one as it stands. -/
def walk (k : Kind) (s : Segments) : List (List Char) → Segments
  | [] => s
  | segment :: rest =>
    match if k = .file && s.names.isEmpty then partedDrive? segment else none with
    | some (drive, tail) => walk k ((s.add drive).add tail) rest
    | none =>
      let segment := shown segment
      if isDoubleDot segment then
        let s := { s with names := withoutLast s.names }
        if rest.isEmpty then s.add [] else walk k s rest
      else if isSingleDot segment then
        if rest.isEmpty then s.add [] else walk k s rest
      else walk k (s.addNamed k segment) rest

end Segments

private def endsPath (c : Char) : Bool := c = '?' || c = '#'

/-- The segments of a path that goes on after `before`. -/
private def segmentsAfter (k : Kind) (before : List String) (cs : List Char) : Segments :=
  Segments.walk k { names := before }
    (Text.splitWhen (isSlash k) (cs.takeWhile (!endsPath ·)))

/-- A path of a file does not start with empty segments. -/
private def filePath (names : List String) : Path :=
  match names.dropWhile (·.isEmpty) with
  | [] => .segments [""]
  | kept => .segments kept

/-- A path that goes on after `before`, and what follows it. -/
def readPath (k : Kind) (before : List String) (cs : List Char) : Path × List Char :=
  let names := (segmentsAfter k before cs).names
  (if k = .file then filePath names else .segments names, cs.dropWhile (!endsPath ·))

/-- A path after an authority; a slash at its start is not a segment's. -/
private def readPathStart (k : Kind) (cs : List Char) : Path × List Char :=
  match cs with
  | [] => if k.isSpecial then readPath k [] [] else (.segments [], [])
  | c :: rest =>
    if isSlash k c then readPath k [] rest
    else if !k.isSpecial && endsPath c then (.segments [], cs)
    else readPath k [] cs

private def encodedText (inSet : Char → Bool) (cs : List Char) : String :=
  String.ofList (percentEncode inSet cs)

/-- The query and the fragment of a URL, from the sign that starts the first of them. -/
def readTail (k : Kind) (cs : List Char) : Option String × Option String :=
  let cs := shown cs
  let queryText := cs.takeWhile (· ≠ '#')
  let query := match queryText with
    | _ :: q => some (encodedText (if k.isSpecial then inSpecialQuery else inQuery) q)
    | [] => none
  let fragment := match cs.dropWhile (· ≠ '#') with
    | _ :: f => some (encodedText inFragment f)
    | [] => none
  (query, fragment)

private def withTail (scheme : String) (authority : Option Authority) (path : Path × List Char) :
    Url :=
  let (query, fragment) := readTail (kindOf scheme) path.2
  ⟨scheme, authority, path.1, query, fragment⟩

private def endsAuthority (k : Kind) (c : Char) : Bool := isSlash k c || endsPath c

/-- The user and the password before the last sign of an authority that ends them. -/
private def readUser (cs : List Char) : String × Option String :=
  let name := encodedText inUserinfo (cs.takeWhile (· ≠ ':'))
  match cs.dropWhile (· ≠ ':') with
  | _ :: c :: rest => (name, some (encodedText inUserinfo (c :: rest)))
  | _ => (name, none)

/-- The number of a port, `none` where it is left out. -/
private def readPort (scheme : String) (digits : List Char) : Except Refusal (Option UInt16) :=
  if !digits.all Char.isDigit then .error .port
  else
    let n := Nat.ofDigitChars 10 digits 0
    if n > 65535 then .error .port
    else if digits.isEmpty || defaultPort? scheme = some n then .ok none
    else .ok (some (.ofNat n))

/-- How many characters of a text are its host: up to a colon outside of brackets. -/
private def hostLength (inBrackets : Bool) : List Char → Nat
  | [] => 0
  | c :: rest =>
    if c = ':' && !inBrackets then 0
    else 1 + hostLength (if c = '[' then true else if c = ']' then false else inBrackets) rest

/-- What follows two slashes. -/
private def readAuthority (scheme : String) (cs : List Char) : Except Refusal Url := do
  let k := kindOf scheme
  let whole := cs.takeWhile (!endsAuthority k ·)
  let after := cs.dropWhile (!endsAuthority k ·)
  let isNamed := whole.contains '@'
  let place := (whole.reverse.takeWhile (· ≠ '@')).reverse
  let userText := if isNamed then whole.take (whole.length - place.length - 1) else []
  let (username, password) := readUser userText
  if isNamed && userText.isEmpty && place.isEmpty && !after.isEmpty then throw .emptyHost
  let hostText := place.take (hostLength false place)
  let rest := place.drop hostText.length ++ after
  if k = .special && hostText.isEmpty then throw .emptyHost
  let host ← if k.isSpecial then specialHost hostText else plainHost hostText
  let hasPort := rest.head? = some ':'
  if host = .domain "" && hasPort then throw .emptyHost
  let afterPort := fun c => endsPath c || isAnySlash c
  let portText := if hasPort then (rest.drop 1).takeWhile (!afterPort ·) else []
  let port ← readPort scheme portText
  if host = .domain "" && (!username.isEmpty || password.isSome) then throw .emptyHost
  let rest := if hasPort then (rest.drop 1).dropWhile (!afterPort ·) else rest
  return withTail scheme (some ⟨username, password, host, port⟩) (readPathStart k rest)

/-- The host of a file, `none` if it is on no other host. -/
private def fileHost (cs : List Char) : Except Refusal (Option Host) :=
  if cs.isEmpty then .ok none else do
    match ← specialHost cs with
    | .domain "localhost" => return none
    | host => return some host

private def withFileTail (host : Option Host) (path : Path × List Char) : Url :=
  withTail "file" (some ⟨"", none, host.getD (.domain ""), none⟩) path

private def firstSegment? (u : Url) : Option String :=
  match u.path with
  | .segments (first :: _) => some first
  | _ => none

private def startsWithDrive (cs : List Char) : Bool :=
  isDriveLetter (cs.take 2) && (cs.drop 2).head?.all fun c => isAnySlash c || endsPath c

/-- The path of a file on a host; with a drive, it is on no other host. -/
private def fileOnHost (host : Host) (cs : List Char) : Url :=
  let start := match cs with
    | c :: rest => if isAnySlash c then rest else cs
    | [] => []
  let s := segmentsAfter .file [] start
  withFileTail (if s.hasDrive then none else some host)
    (filePath s.names, start.dropWhile (!endsPath ·))

private def pathSegments (u : Url) : List String :=
  match u.path with
  | .segments names => names
  | .plain _ => []

/-- The characters after so many that are shown. -/
private def dropShown : Nat → List Char → List Char
  | _, [] => []
  | n, c :: rest =>
    if isPassedOver c then dropShown n rest
    else match n with
      | 0 => c :: rest
      | n + 1 => dropShown n rest

/-- A text relative to a URL, as far as they share a scheme that starts neither. -/
private def readFile (base : Option Url) (cs : List Char) : Except Refusal Url :=
  match shown cs with
  | a :: b :: _ =>
    if isAnySlash a && isAnySlash b then
      let rest := dropShown 2 cs
      let isHostChar (c : Char) : Bool := !(isAnySlash c || endsPath c)
      let text := shown (rest.takeWhile isHostChar)
      if isDriveLetter text then .ok (withFileTail none (readPath .file [] rest))
      else do
        let after := rest.dropWhile isHostChar
        match ← fileHost text with
        | none => return withFileTail none (readPath .file [] after)
        | some host => return fileOnHost host after
    else if isAnySlash a then .ok (fromRoot (dropShown 1 cs)) else .ok (relative cs)
  | [a] => .ok (if isAnySlash a then fromRoot [] else relative cs)
  | [] => .ok (relative [])
where
  fromRoot (rest : List Char) : Url :=
    match base with
    | some base =>
      if startsWithDrive (shown rest) then withFileTail none (readPath .file [] rest)
      else match firstSegment? base with
        | some first =>
          if isPlainDriveLetter first then withFileTail none (readPath .file [first] rest)
          else withTail "file" base.authority (readPath .file [] rest)
        | none => withTail "file" base.authority (readPath .file [] rest)
    | none => withFileTail none (readPath .file [] rest)
  relative (cs : List Char) : Url :=
    match base with
    | none => withFileTail none (readPath .file [] cs)
    | some base =>
      match shown cs with
      | [] => base.withoutFragment
      | '?' :: rest => withTail "file" base.authority (base.path, '?' :: rest)
      | '#' :: rest => { base with fragment := (readTail .file ('#' :: rest)).2 }
      | start =>
        if startsWithDrive start then withFileTail none (readPath .file [] cs)
        else
          let names := pathSegments base
          let kept := if names.getLast?.any isPlainDriveLetter then names else names.dropLast
          withTail "file" base.authority (readPath .file kept cs)

/-- A text relative to a URL of its scheme that is no file. -/
private def readRelative (base : Url) (cs : List Char) : Except Refusal Url :=
  let k := kindOf base.scheme
  match cs with
  | [] => .ok base.withoutFragment
  | '?' :: _ => .ok (withTail base.scheme base.authority (base.path, cs))
  | '#' :: _ => .ok { base with fragment := (readTail k cs).2 }
  | c :: rest =>
    if isAnySlash c then
      match rest with
      | d :: after =>
        if isAnySlash d then
          readAuthority base.scheme (if c = '/' && d = '/' then after else rest.dropWhile isAnySlash)
        else .ok (withTail base.scheme base.authority (readPath k [] rest))
      | [] => .ok (withTail base.scheme base.authority (readPath k [] []))
    else .ok (withTail base.scheme base.authority (readPath k (pathSegments base).dropLast cs))

/-- A text after a scheme that is none of the web's. -/
private def readOther (scheme : String) (cs : List Char) : Except Refusal Url :=
  match cs with
  | '/' :: '/' :: rest => readAuthority scheme rest
  | '/' :: rest => .ok (withTail scheme none (readPath .other [] rest))
  | _ =>
    let text := encodedText inControls (cs.takeWhile (!endsPath ·))
    .ok (withTail scheme none (.plain text, cs.dropWhile (!endsPath ·)))

def read (base : Option Url) (text : String) : Except Refusal Url :=
  let whole := trimmed text.toList
  let cs := shown whole
  match scheme? cs with
  | some (scheme, rest) =>
    match kindOf scheme with
    | .other => readOther scheme rest
    | .file =>
      readFile (base.filter (·.scheme = "file")) ((whole.dropWhile (· ≠ ':')).drop 1)
    | .special =>
      let slashes := (rest.takeWhile isAnySlash).length
      match base.filter fun base => slashes < 2 && base.scheme = scheme with
      | some base => readRelative base rest
      | none => readAuthority scheme (rest.dropWhile isAnySlash)
  | none =>
    match base with
    | none => .error .relativeWithoutBase
    | some base =>
      if cs.head? = some '#' then .ok { base with fragment := (readTail (kindOf base.scheme) cs).2 }
      else match base.path with
        | .plain _ => .error .relativeToPlain
        | .segments _ =>
          if base.scheme = "file" then readFile (some base) whole else readRelative base cs

def parse (text : String) : Except Refusal Url := read none text

/-- The URL that a text names where `base` stands. -/
def join (base : Url) (text : String) : Except Refusal Url := read (some base) text

end IndicatorFeeds.Url

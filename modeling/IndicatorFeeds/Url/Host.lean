import IndicatorFeeds.Url.Basic
import IndicatorFeeds.Url.Domain

namespace IndicatorFeeds.Url

private def radixDigit (c : Char) : Option Nat :=
  if '0' ≤ c && c ≤ '9' then some (c.toNat - 0x30)
  else if 'a' ≤ c && c ≤ 'f' then some (c.toNat - 0x57)
  else if 'A' ≤ c && c ≤ 'F' then some (c.toNat - 0x37)
  else none

/-- The number that digits of a radix up to sixteen stand for. -/
def numberIn (radix : Nat) (cs : List Char) : Option Nat :=
  cs.foldlM (fun n c => do
    let d ← radixDigit c
    if d < radix then some (n * radix + d) else none) 0

/-- A part of an address: decimal, octal after `0`, hexadecimal after `0x`. -/
def ipv4Part? : List Char → Option Nat
  | [] => none
  | '0' :: 'x' :: rest | '0' :: 'X' :: rest => numberIn 16 rest
  | '0' :: c :: rest => numberIn 8 (c :: rest)
  | cs => numberIn 10 cs

/-- The parts of a host; a dot at the end does not start another one. -/
private def hostParts (cs : List Char) : List (List Char) :=
  let parts := Text.splitWhen (· = '.') cs
  if parts.length > 1 && parts.getLast? = some [] then parts.dropLast else parts

/-- Whether a name must be an address because its last part is a number. -/
def endsInNumber (cs : List Char) : Bool :=
  match (hostParts cs).getLast? with
  | some last => (!last.isEmpty && last.all Char.isDigit) || (ipv4Part? last).isSome
  | none => false

/-- The address of up to four parts, of which the last fills the bytes that the others leave. -/
def ipv4? (cs : List Char) : Option UInt32 := do
  let parts := hostParts cs
  if parts.length > 4 then none else
  let numbers ← parts.mapM ipv4Part?
  let last ← numbers.getLast?
  let others := numbers.dropLast
  if others.any (255 < ·) || Nat.pow 256 (4 - others.length) ≤ last then none
  else
    let high := others.foldl (fun n part => n * 256 + part) 0
    some (.ofNat (high * Nat.pow 256 (4 - others.length) + last))

/-- A byte of an address in decimal, without leading zeros. -/
private def octet? : List Char → Option Nat
  | ['0'] => some 0
  | '0' :: _ => none
  | [] => none
  | cs => if cs.length > 3 then none else do
    let n ← numberIn 10 cs
    if n > 255 then none else some n

/-- Four bytes at the end of an address as two pieces. -/
private def octetPieces? (cs : List Char) : Option (List Nat) := do
  match ← (Text.splitWhen (· = '.') cs).mapM octet? with
  | [a, b, c, d] => some [a * 256 + b, c * 256 + d]
  | _ => none

/-- Eight pieces from those that are written, with zeros where pieces are left out. -/
private def fillGap (slots : Nat) (pieces : List Nat) : Option Nat → Option (List Nat)
  | some gap => some (pieces.take gap ++ List.replicate slots 0 ++ pieces.drop gap)
  | none => if slots = 0 then some pieces else none

/-- The pieces that follow `pieces`, with this many places left. `gap` says after how many pieces
some are left out. -/
private def readPieces (pieces : List Nat) (gap : Option Nat) :
    Nat → List Char → Option (List Nat)
  | slots, [] => fillGap slots pieces gap
  | 0, _ :: _ => none
  | slots + 1, ':' :: rest =>
    if gap.isSome then none
    else readPieces (pieces ++ [0]) (some (pieces.length + 1)) slots rest
  | slots + 1, cs => do
    let digits := (cs.take 4).takeWhile fun c => (radixDigit c).isSome
    let piece ← numberIn 16 digits
    match cs.drop digits.length with
    | [] => fillGap slots (pieces ++ [piece]) gap
    | '.' :: _ =>
      if digits.isEmpty || slots = 0 then none
      else fillGap (slots - 1) (pieces ++ (← octetPieces? cs)) gap
    | ':' :: c :: rest => readPieces (pieces ++ [piece]) gap slots (c :: rest)
    | _ => none

/-- The address of up to eight pieces, between colons; two colons stand for zeros. -/
def ipv6? : List Char → Option (List Nat)
  | ':' :: ':' :: rest => readPieces [0] (some 1) 7 rest
  | ':' :: _ | [] | [_] => none
  | cs => readPieces [] none 8 cs

/-- The characters that a name for a scheme outside of the web must not have. -/
def isDeniedInPlainHost (c : Char) : Bool :=
  ['\x00', '\t', '\n', '\r', ' ', '#', '/', ':', '<', '>', '?', '@', '[', '\\', ']', '^',
    '|'].contains c

private def bracketed? : List Char → Option (Except Refusal Host)
  | '[' :: rest =>
    if rest.getLast? = some ']' then
      match ipv6? rest.dropLast with
      | some pieces => some (.ok (.ipv6 pieces))
      | none => some (.error .ipv6)
    else some (.error .ipv6)
  | _ => none

/-- The host of a URL with a scheme of the web. -/
def specialHost (cs : List Char) : Except Refusal Host :=
  match bracketed? cs with
  | some host => host
  | none =>
    match Domain.toAscii? (percentDecode cs) with
    | none => .error .internationalDomain
    | some [] => .error .emptyHost
    | some name =>
      if endsInNumber name then
        match ipv4? name with
        | some address => .ok (.ipv4 address)
        | none => .error .ipv4
      else .ok (.domain (String.ofList name))

/-- The host of a URL with another scheme. -/
def plainHost (cs : List Char) : Except Refusal Host :=
  match bracketed? cs with
  | some host => host
  | none =>
    if cs.any isDeniedInPlainHost then .error .domainCharacter
    else .ok (.domain (String.ofList (percentEncode inControls cs)))

end IndicatorFeeds.Url

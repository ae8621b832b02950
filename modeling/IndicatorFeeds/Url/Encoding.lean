import IndicatorFeeds.Text.Utf8

namespace IndicatorFeeds.Url

/-- Controls, and what lies beyond ASCII. -/
def inControls (c : Char) : Bool := c.toNat < 0x20 || 0x7f ≤ c.toNat

def inFragment (c : Char) : Bool :=
  inControls c || c = ' ' || c = '"' || c = '<' || c = '>' || c = '`'

def inPath (c : Char) : Bool :=
  inFragment c || c = '#' || c = '?' || c = '{' || c = '}'

def inUserinfo (c : Char) : Bool :=
  inPath c || c = '/' || c = ':' || c = ';' || c = '=' || c = '@' || c = '[' || c = '\\' ||
    c = ']' || c = '^' || c = '|'

def inQuery (c : Char) : Bool :=
  inControls c || c = ' ' || c = '"' || c = '#' || c = '<' || c = '>'

/-- The set for queries of the schemes of the web. -/
def inSpecialQuery (c : Char) : Bool := inQuery c || c = '\''

/-- What a form field does not show as it is, the space apart. -/
def inForm (c : Char) : Bool :=
  !(c.isAlphanum || c = '*' || c = '-' || c = '.' || c = '_')

private def upperHex (n : Nat) : Char :=
  if n < 10 then Char.ofNat (0x30 + n) else Char.ofNat (0x37 + n)

def percentByte (b : UInt8) : List Char :=
  ['%', upperHex (b.toNat / 16), upperHex (b.toNat % 16)]

/-- A character, encoded if it is in the set. -/
def percentChar (inSet : Char → Bool) (c : Char) : List Char :=
  if inSet c then (Text.encodeUtf8 [c]).flatMap percentByte else [c]

def percentEncode (inSet : Char → Bool) (cs : List Char) : List Char :=
  cs.flatMap (percentChar inSet)

def formEncode (s : String) : List Char :=
  s.toList.flatMap fun c => if c = ' ' then ['+'] else percentChar inForm c

private def hexDigitValue (c : Char) : Option Nat :=
  if '0' ≤ c && c ≤ '9' then some (c.toNat - 0x30)
  else if 'a' ≤ c && c ≤ 'f' then some (c.toNat - 0x57)
  else if 'A' ≤ c && c ≤ 'F' then some (c.toNat - 0x37)
  else none

/-- The bytes of a text with its escapes undone; a percent sign without two digits stays. -/
def percentDecode : List Char → List UInt8
  | '%' :: a :: b :: rest =>
    match hexDigitValue a, hexDigitValue b with
    | some x, some y => .ofNat (x * 16 + y) :: percentDecode rest
    | _, _ => 0x25 :: percentDecode (a :: b :: rest)
  | c :: rest => Text.encodeUtf8 [c] ++ percentDecode rest
  | [] => []
termination_by cs => cs.length

end IndicatorFeeds.Url

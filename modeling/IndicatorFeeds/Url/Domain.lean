import IndicatorFeeds.Text.Composed
import IndicatorFeeds.Text.Direction
import IndicatorFeeds.Text.Joining
import IndicatorFeeds.Url.Domain.Mapping
import IndicatorFeeds.Url.Punycode

/-!
Names of hosts. A name is written in any script and sent in ASCII: its characters are mapped to
those that stand for them, its labels are checked, and labels beyond ASCII are encoded. The rules
are those of Unicode Technical Standard 46, with the ASCII characters that a URL forbids.
-/

namespace IndicatorFeeds.Url.Domain

/-- The ASCII characters that a name must not have. -/
def isForbidden (c : Char) : Bool :=
  c.toNat ≤ 0x20 || c.toNat = 0x7f ||
    ['%', '#', '/', ':', '<', '>', '?', '@', '[', '\\', ']', '^', '|'].contains c

/-- Whether a character stands for itself. -/
def isUnmapped (c : Char) : Bool := mapped? c = some [c]

private def isAscii (cs : List Char) : Bool := cs.all (·.toNat < 0x80)

/-- The mapped characters of a name, composed, if names can have them all. -/
def mappedName? (cs : List Char) : Option (List Char) := do
  let name := Text.composed (← cs.mapM mapped?).flatten
  if name.any isForbidden then none else some name

/-- What a label says: what it encodes, if it starts with the sign of an encoded one. The encoding
must be one of a label that needs it, and that is mapped to itself. -/
def labelText? (label : List Char) : Option (List Char) :=
  match label with
  | 'x' :: 'n' :: '-' :: '-' :: code => do
    if !isAscii code || code.isEmpty || code.getLast? = some '-' || 2000 < code.length then none
    let text ← Punycode.decode? code
    if text.all isUnmapped && Text.composed text = text then some text else none
  | _ => some label

private def zeroWidthNonJoiner : Char := Char.ofNat 0x200c

private def zeroWidthJoiner : Char := Char.ofNat 0x200d

/-- Whether the first character that letters are not joined across is of some kind. -/
private def reaches (isKind : Char → Bool) (cs : List Char) : Bool :=
  (cs.dropWhile fun c => Text.isTransparent c && !isKind c).head?.any isKind

/-- Whether the joiners in a label stand where they make a difference: after a virama, or, for the
sign that keeps letters apart, between two that would be joined. `before` is what precedes, the
last character first. -/
def joinersFit (before : List Char) : List Char → Bool
  | [] => true
  | c :: rest =>
    (if c = zeroWidthJoiner || c = zeroWidthNonJoiner then
        before.head?.any (Text.combiningClass · = Text.viramaClass) ||
          (c = zeroWidthNonJoiner && reaches Text.joinsNext before &&
            reaches Text.joinsPrevious rest)
      else true) && joinersFit (c :: before) rest

/-- Whether a label can be part of a name: it starts with no mark, its joiners are in place, and it
is not too long to be encoded. -/
def isLabel (text : List Char) : Bool :=
  !text.head?.any Text.isMark && joinersFit [] text && (isAscii text || text.length ≤ 1000)

/-- Whether a character makes a name one of which some part is written from right to left. -/
def isRightToLeft (c : Char) : Bool :=
  match Text.direction c with
  | .rightToLeft | .arabicNumber => true
  | _ => false

/-- Whether the parts of a label keep to its own direction, which is that of its first character.
Only names with some part from right to left have to. -/
def keepsDirection (text : List Char) : Bool :=
  match text.map Text.direction with
  | [] => true
  | first :: rest =>
    let last := ((rest.reverse.dropWhile (· = .mark)).head?).getD first
    match first with
    | .leftToRight =>
      rest.all (fun d => d ≠ .rightToLeft && d ≠ .arabicNumber) &&
        (last = .leftToRight || last = .europeanNumber)
    | .rightToLeft =>
      rest.all (· ≠ .leftToRight) &&
        (last = .rightToLeft || last = .arabicNumber || last = .europeanNumber) &&
        !(rest.contains .arabicNumber && rest.contains .europeanNumber)
    | _ => false

/-- A label as it is sent. -/
private def sent (label : List Char) : List Char :=
  if isAscii label then label else 'x' :: 'n' :: '-' :: '-' :: Punycode.encode label

/-- The labels of a name as they are sent. -/
def labels? (name : List Char) : Option (List (List Char)) := do
  let labels := Text.splitWhen (· = '.') (← mappedName? name)
  let texts ← labels.mapM labelText?
  if texts.all isLabel && (!texts.flatten.any isRightToLeft || texts.all keepsDirection) then
    some (labels.map sent)
  else none

/-- A name as it is sent, from its bytes in UTF-8. -/
def toAscii? (bytes : List UInt8) : Option (List Char) := do
  let name ← (Text.decodeUtf8 bytes).toOption
  return ['.'].intercalate (← labels? name)

end IndicatorFeeds.Url.Domain

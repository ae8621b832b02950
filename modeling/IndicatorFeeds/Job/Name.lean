import IndicatorFeeds.Text.Quoted

namespace IndicatorFeeds.Job

/-- Why a text is not the name of a job. -/
inductive NameRefusal where
  | length (bytes : Nat)
  | firstCharacter (name : String)
  | character (name : String) (found : Char)
deriving Repr, DecidableEq

def NameRefusal.message : NameRefusal → String
  | length bytes => s!"job name must be 1-127 characters, got {bytes}"
  | firstCharacter name =>
    s!"job name {Text.quoted name} must not start with '-', '_', '.' or '+'"
  | character name found =>
    s!"job name {Text.quoted name} contains invalid character {Text.quotedChar found}"

/-- The characters of a job name. -/
def isNameChar (c : Char) : Bool :=
  c.isLower || c.isDigit || c = '-' || c = '_' || c = '.'

/-- The characters that a job name must not start with. -/
def isReservedStart (c : Char) : Bool :=
  c = '-' || c = '_' || c = '.' || c = '+'

/-- Why the text is not the name of a job, `none` if it is one. Its length counts bytes. -/
def nameRefusal? (name : String) : Option NameRefusal :=
  if name.utf8ByteSize = 0 || name.utf8ByteSize > 127 then some (.length name.utf8ByteSize)
  else if name.toList.head?.any isReservedStart then some (.firstCharacter name)
  else (name.toList.find? (!isNameChar ·)).map (.character name)

def isName (name : String) : Bool := (nameRefusal? name).isNone

end IndicatorFeeds.Job

namespace IndicatorFeeds

/-- Why there is nothing at a path. -/
inductive Absence where
  | noEntry
  /-- The path goes on behind a file. -/
  | notDirectory
  /-- The path, or a part of it, has more bytes than there can be. -/
  | nameTooLong
  | nulCharacter
deriving Repr, DecidableEq

def Absence.message : Absence → String
  | noEntry => "No such file or directory (os error 2)"
  | notDirectory => "Not a directory (os error 20)"
  | nameTooLong => "File name too long (os error 36)"
  | nulCharacter => "file name contained an unexpected NUL byte"

/-- What is found at a path. -/
inductive FileContent where
  | text (s : String)
  /-- Bytes that are not UTF-8. -/
  | bytes (content : List UInt8)
  | directory
  | missing (why : Absence)
deriving Repr, DecidableEq

namespace FileContent

/-- Why a file cannot be read as text. -/
def text? : FileContent → Except String String
  | text s => .ok s
  | bytes _ => .error "stream did not contain valid UTF-8"
  | directory => .error "Is a directory (os error 21)"
  | missing why => .error why.message

def isMissing : FileContent → Bool
  | missing _ => true
  | _ => false

end FileContent

/-- The files below a working directory, by their paths, and directories that are named because
they may be empty. -/
structure Files where
  entries : List (String × FileContent) := []

namespace Files

/-- The greatest number of bytes in a path. -/
def maxPathBytes : Nat := 4095

/-- The greatest number of bytes in the name of a directory's entry. -/
def maxNameBytes : Nat := 255

/-- Why a path is not even followed. -/
def refusal? (path : String) : Option Absence :=
  if path.toList.contains '\x00' then some .nulCharacter
  else if path.isEmpty then some .noEntry
  else if maxPathBytes < path.utf8ByteSize then some .nameTooLong
  else none

/-- The parts of a path. Repeated slashes have empty parts between them. -/
def parts (path : String) : List String :=
  (path.toList.splitOn '/').map String.ofList

/-- What is at a place below the working directory. -/
def atParts (files : Files) (place : List String) : FileContent :=
  match files.entries.find? fun (path, _) => parts path = place with
  | some (_, content) => content
  | none =>
    if files.entries.any fun (path, _) => place.isPrefixOf (parts path) then .directory
    else .missing .noEntry

/-- The directories that stand at the root of every machine. -/
def rootDirectories : List String :=
  ["bin", "dev", "etc", "home", "proc", "sys", "tmp", "usr", "var"]

/-- What is at a place below the root of a machine. -/
def atRoot : List String → FileContent
  | [] => .directory
  | [name] => if rootDirectories.contains name then .directory else .missing .noEntry
  | ["dev", "null"] => .text ""
  | _ => .missing .noEntry

/-- A directory that paths are followed from, with all that is below it. -/
structure Base where
  find : List String → FileContent
  /-- Whether the directory above it is itself, or else one where nothing is known. -/
  isRoot : Bool

/-- Follows the parts of a path from a place below a directory; no place is one above it. -/
def Base.follow (base : Base) : Option (List String) → List String → FileContent
  | _, [] => .directory
  | here, part :: rest =>
    if part.isEmpty || part = "." then base.follow here rest
    else if part = ".." then
      let above := match here with
        | some [] => if base.isRoot then some [] else none
        | some here => some here.dropLast
        | none => none
      base.follow above rest
    else if maxNameBytes < part.utf8ByteSize then .missing .nameTooLong
    else match here with
      | none => .missing .noEntry
      | some here =>
        match base.find (here ++ [part]) with
        | .directory => base.follow (some (here ++ [part])) rest
        | .missing why => .missing why
        | content => if rest.isEmpty then content else .missing .notDirectory

/-- What is found at a path. -/
def find (files : Files) (path : String) : FileContent :=
  match refusal? path with
  | some why => .missing why
  | none =>
    match parts path with
    | "" :: parts => Base.follow ⟨atRoot, true⟩ (some []) parts
    | parts => Base.follow ⟨files.atParts, false⟩ (some []) parts

end Files

end IndicatorFeeds

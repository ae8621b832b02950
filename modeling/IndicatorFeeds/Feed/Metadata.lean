import IndicatorFeeds.Delimited
import IndicatorFeeds.Json.Decode
import IndicatorFeeds.Url.Parser

namespace IndicatorFeeds.Feed

/-- How the lines of a feed are written. -/
inductive Format where
  | delimitedText (delimiter : Char)
deriving Repr, DecidableEq

/-- One feed. -/
structure Metadata where
  feedId : String
  name : String := ""
  organization : String := ""
  description : String := ""
  url : Url
  format : Format := .delimitedText ','
  /-- Whether the first line names the columns. -/
  hasHeader : Bool := true
  /-- The column of the indicator; its name in the header has no meaning. -/
  indicatorColumn : UInt64 := 0
  /-- What kind of indicator the feed lists. -/
  indicatorType : String := "ip"
deriving Repr, DecidableEq

namespace Format

/-- The name of delimited text in JSON. -/
def delimitedTextName : String := "delimited_text"

/-- The reader of a format's lines; a delimiter that is none is refused. -/
def parser : Format → Except Error (String → Except Error (List String))
  | delimitedText c => do return Delimited.parseLine (← Delimiter.ofChar c)

theorem parser_eq_ok_iff {c : Char} {parse : String → Except Error (List String)} :
    (delimitedText c).parser = .ok parse ↔
      ∃ d, Delimiter.ofChar c = .ok d ∧ parse = Delimited.parseLine d := by
  show (Delimiter.ofChar c >>= fun d => .ok (Delimited.parseLine d)) = .ok parse ↔ _
  cases Delimiter.ofChar c with
  | error e =>
    constructor
    · nofun
    · rintro ⟨_, ⟨⟩, _⟩
  | ok d =>
    constructor
    · intro opened
      exact ⟨d, rfl, (Except.ok.inj opened).symm⟩
    · rintro ⟨_, ⟨⟩, rfl⟩
      rfl

def toJson : Format → Json.Value
  | delimitedText c =>
    .ofFields [("type", .string delimitedTextName), ("delimiter", .string (String.singleton c))]

/-- Whether a tree names the one format there is. Inside of text that has been read as a whole
before its meaning is known, the format's number names it too. -/
def namesFormat (buffered : Bool) (t : Json.Tree) : Bool :=
  t.text = some delimitedTextName || (buffered && t.natural = some 0)

/-- A format: an object with the format's name as its type, or an array that starts with it. All
of it is read before its meaning is known, so every part has to be a value, at most `depth` deep. -/
def fromJson? (buffered : Bool) (depth : Nat) (t : Json.Tree) : Option Format := do
  let _ ← t.value? depth
  match t with
  | .object _ =>
    let f ← t.fields ["type", "delimiter"]
    if ← f.required "type" fun t => some (namesFormat buffered t) then
      return delimitedText (← f.withDefault "delimiter" Json.Tree.character ',')
    else none
  | .array (name :: parts) =>
    if namesFormat buffered name then
      let f ← Json.Tree.fields ["delimiter"] (.array parts)
      return delimitedText (← f.withDefault "delimiter" Json.Tree.character ',')
    else none
  | _ => none

end Format

namespace Metadata

/-- A feed with a header, commas between the fields, and addresses in its first column. -/
def delimited (feedId : String) (url : Url) : Metadata where
  feedId := feedId
  name := feedId
  url := url

def toJson (m : Metadata) : Json.Value :=
  .ofFields [
    ("feed_id", .string m.feedId),
    ("name", .string m.name),
    ("organization", .string m.organization),
    ("description", .string m.description),
    ("url", .string m.url.text),
    ("format", m.format.toJson),
    ("has_header", .bool m.hasHeader),
    ("indicator_column", .nat m.indicatorColumn.toNat),
    ("indicator_type", .string m.indicatorType)]

/-- The names of the fields, in order. -/
def fieldNames : List String :=
  ["feed_id", "name", "organization", "description", "url", "format", "has_header",
    "indicator_column", "indicator_type"]

def urlOf (t : Json.Tree) : Option Url := do
  (Url.parse (← t.text)).toOption

def ofFields? (buffered : Bool) (depth : Nat) (f : Json.Tree.Fields) : Option Metadata := do
  let text (name missing : String) := f.withDefault name Json.Tree.text missing
  return {
    feedId := ← f.required "feed_id" Json.Tree.text
    name := ← text "name" ""
    organization := ← text "organization" ""
    description := ← text "description" ""
    url := ← f.required "url" urlOf
    format := ← f.withDefault "format" (Format.fromJson? buffered depth) (.delimitedText ',')
    hasHeader := ← f.withDefault "has_header" Json.Tree.boolean true
    indicatorColumn := .ofNat (← f.withDefault "indicator_column" Json.Tree.natural 0)
    indicatorType := ← text "indicator_type" "ip" }

def fromJson? (t : Json.Tree) : Option Metadata := do
  ofFields? false (Json.Tree.maxDepth - 1) (← t.fields fieldNames)

end Metadata

/-- Refuses a header that lacks a field of the one before it. -/
def checkHeader (previous current : List String) : Except Error Unit :=
  match previous.filter (!current.contains ·) with
  | [] => .ok ()
  | missing => .error (.incompatibleFields missing)

/-- The indicator of a row: its cell in the column, if there is one and it is not empty. -/
def indicator? (fields : List String) (column : Nat) : Option String :=
  fields[column]?.filter (!·.isEmpty)

end IndicatorFeeds.Feed

import IndicatorFeeds.Toml.Quoted
import IndicatorFeeds.Toml.Scalar
import IndicatorFeeds.Toml.Table

namespace IndicatorFeeds.Toml

private def skipSpace (cs : List Char) : List Char := cs.dropWhile isSpace

/-- What follows a line break at the head of the characters. -/
private def lineBreak? : List Char → Option (List Char)
  | '\n' :: rest => some rest
  | '\r' :: '\n' :: rest => some rest
  | _ => none

/-- The characters without the space and the comment they start with. -/
private def skipComment (cs : List Char) : List Char :=
  match skipSpace cs with
  | '#' :: rest => rest.dropWhile isPlain
  | cs => cs

/-- What follows the end of a line. -/
private def lineEnd? (cs : List Char) : Option (List Char) :=
  match skipComment cs with
  | [] => some []
  | cs => lineBreak? cs

/-- The characters without the space, comments and line breaks they start with. -/
private def skipGap : Nat → List Char → List Char
  | 0, cs => cs
  | fuel + 1, cs =>
    let after := skipComment cs
    match lineBreak? after with
    | some rest => skipGap fuel rest
    | none => after

private def skipGaps (cs : List Char) : List Char := skipGap cs.length cs

private def inBareKey (c : Char) : Bool := c.isAlphanum || c = '_' || c = '-'

/-- One part of a key. -/
private def keyPart? (cs : List Char) : Option (String × List Char) :=
  match cs with
  | '"' :: _ | '\'' :: _ => string?.line? cs
  | _ =>
    let word := cs.takeWhile inBareKey
    if word.isEmpty then none else some (String.ofList word, cs.dropWhile inBareKey)

/-- How many parts a key may have, and how deep arrays and tables inside a line may be nested. -/
def maxDepth : Nat := 80

/-- A key of so many parts at most: its parts but the last, the last one, and what follows the key
and the space after it. -/
private def keyOf? : Nat → List Char → Option (List String × String × List Char)
  | 0, _ => none
  | parts + 1, cs => do
    let (part, rest) ← keyPart? (skipSpace cs)
    match skipSpace rest with
    | '.' :: rest =>
      let (path, last, rest) ← keyOf? parts rest
      return (part :: path, last, rest)
    | rest => return ([], part, rest)

private def key? (cs : List Char) : Option (List String × String × List Char) :=
  keyOf? maxDepth cs

mutual

/-- A value at the head of the characters. -/
private def value? : Nat → Nat → List Char → Option (Value × List Char)
  | 0, _, _ => none
  | fuel + 1, depth, cs =>
    match cs with
    | '"' :: _ | '\'' :: _ => (string? cs).map fun (s, rest) => (.string s, rest)
    | '[' :: rest => if depth = 0 then none else
      match skipGaps rest with
      | ']' :: rest => some (.array [], rest)
      | rest => (items? fuel (depth - 1) rest).map fun (items, rest) => (.array items, rest)
    | '{' :: rest => if depth = 0 then none else
      match skipGaps rest with
      | '}' :: rest => some (.table [], rest)
      | rest => (fields? fuel (depth - 1) [] rest).map fun (fields, rest) =>
        (.table (closeFields fields), rest)
    | _ =>
      let (word, rest) := takeWord cs
      (scalar? word).map fun v => (v, rest)

/-- The items of an array up to its closing bracket; there is at least one. -/
private def items? : Nat → Nat → List Char → Option (List Value × List Char)
  | 0, _, _ => none
  | fuel + 1, depth, cs => do
    let (item, rest) ← value? fuel depth cs
    match skipGaps rest with
    | ']' :: rest => return ([item], rest)
    | ',' :: rest =>
      match skipGaps rest with
      | ']' :: rest => return ([item], rest)
      | rest =>
        let (items, rest) ← items? fuel depth rest
        return (item :: items, rest)
    | _ => none

/-- The fields of an inline table up to its closing brace; there is at least one more. -/
private def fields? : Nat → Nat → Fields → List Char → Option (Fields × List Char)
  | 0, _, _, _ => none
  | fuel + 1, depth, fields, cs => do
    let (path, key, rest) ← key? cs
    match skipGaps rest with
    | '=' :: rest =>
      let (v, rest) ← value? fuel depth (skipGaps rest)
      let (_, fields) ← Fields.assign path key v .header fields
      match skipGaps rest with
      | '}' :: rest => return (fields, rest)
      | ',' :: rest =>
        match skipGaps rest with
        | '}' :: rest => return (fields, rest)
        | rest => fields? fuel depth fields rest
      | _ => none
    | _ => none

end

/-- A document as far as it has been read. -/
structure Document where
  fields : Fields := []
  /-- The path of the table that keys are added to. -/
  place : List String := []

namespace Document

/-- The document with one more key. -/
def assign (d : Document) (path : List String) (key : String) (v : Value) : Option Document :=
  (Fields.change false (Fields.assign path key v) d.place .header d.fields).map fun (_, fields) =>
    { d with fields }

/-- The document with one more header. -/
def enter (d : Document) (double : Bool) (path : List String) (key : String) : Option Document :=
  let fields := if double then d.fields.openNext path key else d.fields.openTable path key
  fields.map fun fields => ⟨fields, path ++ [key]⟩

/-- The document with one more line, and what follows its end. -/
private def line? (d : Document) (cs : List Char) : Option (Document × List Char) :=
  match skipSpace cs with
  | '[' :: '[' :: rest => do
    match ← key? rest with
    | (path, key, ']' :: ']' :: rest) => return (← d.enter true path key, ← lineEnd? rest)
    | _ => none
  | '[' :: rest => do
    match ← key? rest with
    | (path, key, ']' :: rest) => return (← d.enter false path key, ← lineEnd? rest)
    | _ => none
  | cs =>
    match lineEnd? cs with
    | some rest => some (d, rest)
    | none => do
      match ← key? cs with
      | (path, key, '=' :: rest) =>
        let (v, rest) ← value? cs.length maxDepth (skipSpace rest)
        return (← d.assign path key v, ← lineEnd? rest)
      | _ => none

/-- The document with the lines of a text. Every line that is not the last takes a character. -/
private def lines? : Nat → Document → List Char → Option Document
  | 0, d, _ => some d
  | fuel + 1, d, cs => do
    let (d, rest) ← d.line? cs
    if rest.isEmpty then return d else lines? fuel d rest

end Document

/-- The table that a text describes. A byte order mark at its start does not count. -/
def parse? (text : String) : Option Value :=
  let cs := match text.toList with
    | '\ufeff' :: rest => rest
    | cs => cs
  (Document.lines? (cs.length + 1) {} cs).map fun d => .table (closeFields d.fields)

end IndicatorFeeds.Toml

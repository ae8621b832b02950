import IndicatorFeeds.Json.Tree

namespace IndicatorFeeds.Json.Tree

/-- A natural number below `2 ^ 64`. -/
def natural : Tree → Option Nat
  | .number (some (.int i)) => if 0 ≤ i then some i.toNat else none
  | _ => none

/-- A natural number below `2 ^ 32`. -/
def natural32 (t : Tree) : Option Nat :=
  t.natural.bind fun n => if n < UInt32.size then some n else none

def boolean : Tree → Option Bool
  | .bool b => some b
  | _ => none

def text : Tree → Option String
  | .string s => s
  | _ => none

/-- A string of one character. -/
def character (t : Tree) : Option Char :=
  match t.text.map String.toList with
  | some [c] => some c
  | _ => none

def listOf (decode : Tree → Option α) : Tree → Option (List α)
  | .array items => items.mapM decode
  | _ => none

def texts : Tree → Option (List String) := listOf text

/-- `null`, or a value. -/
def nullable (decode : Tree → Option α) : Tree → Option (Option α)
  | .null => some none
  | t => (decode t).map some

/-- One of several named cases: the name, or an object with the name as its one key and `null`. -/
def oneOf (cases : List (String × α)) : Tree → Option α
  | .string (some name) => cases.lookup name
  | .object [(some name, .null)] => cases.lookup name
  | _ => none

/-- The fields of a record that are there, by name. -/
structure Fields where
  /-- Whether they come from an array. -/
  positional : Bool
  find? : String → Option Tree

/-- Whether an object has more than one field of the name. -/
def occursTwice (name : String) (fields : List (Option String × Tree)) : Bool :=
  (fields.filter (·.1 = some name)).length > 1

/-- The fields of a record with these names. -/
def fields (names : List String) : Tree → Option Fields
  | .object fields =>
    if fields.any (·.1.isNone) || names.any (occursTwice · fields) then none
    else some ⟨false, fun name => (fields.find? (·.1 = some name)).map (·.2)⟩
  | .array items =>
    if items.length > names.length then none
    else some ⟨true, fun name => (names.zip items).lookup name⟩
  | _ => none

namespace Fields

def required (f : Fields) (name : String) (decode : Tree → Option α) : Option α :=
  (f.find? name).bind decode

/-- A field with a value of its own where it is missing. -/
def withDefault (f : Fields) (name : String) (decode : Tree → Option α) (missing : α) : Option α :=
  match f.find? name with
  | none => some missing
  | some t => decode t

/-- A field that may be `null`; in an object it may also be missing. -/
def optional (f : Fields) (name : String) (decode : Tree → Option α) : Option (Option α) :=
  match f.find? name with
  | none => if f.positional then none else some none
  | some t => nullable decode t

end Fields

end IndicatorFeeds.Json.Tree

import IndicatorFeeds.Toml.Value

/-!
Tables as a document builds them. A table remembers how it came about, since that decides what may
still be added to it; a value, inline tables included, is complete once it is written.
-/

namespace IndicatorFeeds.Toml

/-- How a table came about. -/
inductive Origin where
  /-- It has a header of its own. -/
  | header
  /-- A header of a table inside it was written. -/
  | implied
  /-- A dotted key leads through it. -/
  | dotted
deriving Repr, DecidableEq

/-- What a key of an open table stands for. -/
inductive Item where
  | value (v : Value)
  | table (origin : Origin) (fields : List (String × Item))
  /-- Tables with double headers, the last one first; only that one is still open. -/
  | tables (closed : List (List (String × Item))) (last : List (String × Item))
deriving Inhabited

abbrev Fields := List (String × Item)

namespace Fields

/-- The fields with another item for a key that is there. -/
def replace (key : String) (item : Item) (fields : Fields) : Fields :=
  fields.map fun (k, old) => if k = key then (k, item) else (k, old)

/-- The fields with one more. -/
def add (key : String) (item : Item) (fields : Fields) : Fields :=
  fields ++ [(key, item)]

/-- Changes the table that a path leads to. A path goes through the last of several tables; of
single ones, a header's path goes through any, a dotted key only through those without a header.
Missing tables are made. -/
def change (dotted : Bool) (f : Origin → Fields → Option (Origin × Fields)) :
    List String → Origin → Fields → Option (Origin × Fields)
  | [], origin, fields => f origin fields
  | key :: path, origin, fields => do
    match fields.lookup key with
    | none =>
      let made : Origin := if dotted then .dotted else .implied
      let (made, inner) ← change dotted f path made []
      return (origin, fields.add key (.table made inner))
    | some (.value _) => none
    | some (.tables closed last) =>
      let (_, last) ← change dotted f path .header last
      return (origin, replace key (.tables closed last) fields)
    | some (.table kind inner) =>
      if dotted && kind = .header then none
      else
        let (kind, inner) ← change dotted f path kind inner
        return (origin, replace key (.table kind inner) fields)

/-- Gives a key its value inside an open table. The tables that a dotted key leads to are made by
dotted keys alone. -/
def assign (path : List String) (key : String) (v : Value) (origin : Origin) (fields : Fields) :
    Option (Origin × Fields) :=
  change true
    (fun origin fields =>
      if decide (origin = .dotted) == path.isEmpty || (fields.lookup key).isSome then none
      else some (origin, fields.add key (.value v)))
    path origin fields

/-- Opens the table of a header, which may be implied but not written before. -/
def openTable (path : List String) (key : String) (fields : Fields) : Option Fields :=
  (change false
    (fun origin fields =>
      match fields.lookup key with
      | none => some (origin, fields.add key (.table .header []))
      | some (.table .implied inner) =>
        some (origin, fields.replace key (.table .header inner))
      | some _ => none)
    path .header fields).map (·.2)

/-- Opens one more table of a double header. -/
def openNext (path : List String) (key : String) (fields : Fields) : Option Fields :=
  (change false
    (fun origin fields =>
      match fields.lookup key with
      | none => some (origin, fields.add key (.tables [] []))
      | some (.tables closed last) =>
        some (origin, fields.replace key (.tables (last :: closed) []))
      | some _ => none)
    path .header fields).map (·.2)

end Fields

mutual

/-- The value of an item, with nothing more to come. -/
def Item.close : Item → Value
  | .value v => v
  | .table _ fields => .table (closeFields fields)
  | .tables closed last =>
    .array ((closeTables closed).reverse ++ [.table (closeFields last)])

def closeFields : List (String × Item) → List (String × Value)
  | [] => []
  | (key, item) :: rest => (key, item.close) :: closeFields rest

def closeTables : List (List (String × Item)) → List Value
  | [] => []
  | fields :: rest => .table (closeFields fields) :: closeTables rest

end

end IndicatorFeeds.Toml

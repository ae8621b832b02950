import IndicatorFeeds.Job.Record
import IndicatorFeeds.Program

namespace IndicatorFeeds.Job

/-- Where the records are. -/
structure Records where
  index : String

namespace Records

private def typed (name : String) : Json.Value := .ofFields [("type", .string name)]

private def time : Json.Value :=
  .ofFields [("type", .string "date"), ("format", .string "epoch_millis")]

def indexSpec : Store.IndexSpec :=
  .system (.ofFields [("dynamic", .string "strict"), ("properties", .ofFields [
    ("name", typed "keyword"),
    ("state", typed "keyword"),
    ("schedule", .ofFields [("properties", .ofFields [
      ("period", typed "long"), ("unit", typed "keyword"), ("start_time", time)])]),
    ("update_enabled", typed "boolean"),
    ("enabled_time", time),
    ("indices", typed "keyword"),
    ("update_stats", .ofFields [("properties", .ofFields [
      ("last_succeeded_at", time), ("last_failed_at", time), ("last_skipped_at", time),
      ("last_processing_time_in_millis", typed "long")])]),
    ("last_update_time", time),
    ("schema_version", typed "integer"),
    ("feed_fields", typed "keyword")])])

/-- Makes the index of records; someone else may make it at the same time. -/
def createIndexIfAbsent (r : Records) : Program Unit := do
  let found : Bool ← Program.ofStore (← Program.call (.indexExists r.index))
  if found then return ()
  match ← Program.call (.createIndex r.index indexSpec) with
  | .ok _ | .error (.alreadyExists _) => return ()
  | .error e => Program.error (.store e)

/-- The record in a document. -/
def decode (found : Store.Document) : Except Error Record :=
  match Record.fromJson? (.ofValue found.source) with
  | some record => .ok record
  | none => .error .serialization

def get (r : Records) (name : String) : Program (Option Record) := do
  match ← Program.ofStore (← Program.call (.getDocument r.index name)) with
  | some found => some <$> Program.ofExcept (decode found)
  | none => return none

def getAll (r : Records) : List String → Program (List Record)
  | [] => return []
  | name :: rest => do
    let found ← r.get name
    return found.toList ++ (← r.getAll rest)

/-- All records in the order of their names, without what is none. A missing index has none. -/
def list (r : Records) : Program (List Record) := do
  match ← Program.call (.searchAll r.index) with
  | .ok found =>
    let records := found.filterMap fun document => (decode document).toOption
    return records.mergeSort fun a b => a.name ≤ b.name
  | .error (.indexNotFound _) => return []
  | .error e => Program.error (.store e)

/-- The record as it is written now. -/
def stamped (record : Record) : Program Record := do
  return { record with lastUpdateTime := ← Program.now }

def put (r : Records) (record : Record) : Program Record := do
  let record ← stamped record
  match ← Program.call (.putDocument r.index record.name record.toJson .create) with
  | .ok _ => return record
  | .error (.alreadyExists _) => Program.error (.alreadyExists s!"job {record.name} already exists")
  | .error e => Program.error (.store e)

/-- Writes a record over the one there is, if there is one. The record that was to be written
comes with the outcome. -/
def save (r : Records) (record : Record) : Program (Record × Except Store.Error Unit) := do
  let record ← stamped record
  let written ← Program.call (.putDocument r.index record.name record.toJson .overwrite)
  return (record, written.map fun _ => ())

/-- Writes a record over the one there is, if there is one. -/
def update (r : Records) (record : Record) : Program Record := do
  let (record, written) ← r.save record
  Program.ofStore written
  return record

def delete (r : Records) (name : String) : Program Unit := do
  match ← Program.call (.deleteDocument r.index name none) with
  | .ok _ => return ()
  | .error (.documentNotFound _ _) | .error (.indexNotFound _) =>
    Program.error (.notFound s!"job {name}")
  | .error e => Program.error (.store e)

end Records

end IndicatorFeeds.Job

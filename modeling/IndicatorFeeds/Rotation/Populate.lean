import IndicatorFeeds.Feed.Reader
import IndicatorFeeds.Program

namespace IndicatorFeeds.Rotation

/-- How many rows have been indexed, and how many had no indicator. -/
structure RowCounts where
  indexed : Nat
  skipped : Nat
deriving Repr, DecidableEq

/-- The document of an indicator. -/
def indicatorDocument (feed : Feed.Metadata) (timestamp : Instant) (value : String) :
    Json.Value :=
  .ofFields [("ioc_type", .string feed.indicatorType), ("ioc_value", .string value),
    ("feed_id", .string feed.feedId), ("timestamp", timestamp.toJson)]

/-- The greatest number of documents that a batch can have room for: each takes 56 bytes, and all of
them together at most `2 ^ 63 - 1`. Below that the memory is taken to be there. -/
def maxBatch : Nat := 0x7fffffffffffffff / 56

/-- Where documents are written to and what they are made of. -/
structure Target where
  index : String
  document : String → Json.Value
  column : Nat
  batchSize : Nat

namespace Target

def write (t : Target) (batch : Array Store.BulkItem) : Program Unit := do
  Program.ofStore (← Program.call (.bulkIndex t.index batch.toList))

/-- Writes what is left when the rows have ended. -/
def finish (t : Target) (batch : Array Store.BulkItem) (counts : RowCounts) :
    Program RowCounts := do
  if batch.isEmpty then return counts
  t.write batch
  return { counts with indexed := counts.indexed + batch.size }

/-- Goes on with a batch that has been begun. -/
def populateFrom (t : Target) (failure : Option Error) (batch : Array Store.BulkItem)
    (counts : RowCounts) : List Feed.Row → Program RowCounts
  | [] =>
    match failure with
    | some e => Program.error e
    | none => t.finish batch counts
  | row :: rest =>
    match Feed.indicator? row t.column with
    | none => t.populateFrom failure batch { counts with skipped := counts.skipped + 1 } rest
    | some value =>
      let batch := batch.push ⟨none, t.document value⟩
      if batch.size < t.batchSize then t.populateFrom failure batch counts rest
      else (t.write batch).bind fun _ =>
        t.populateFrom failure #[] { counts with indexed := counts.indexed + batch.size } rest

/-- Writes the documents of the rows, which end with the failure if there is one. Room for a whole
batch is made before the first row is looked at. -/
def populate (t : Target) (rows : List Feed.Row) (failure : Option Error) : Program RowCounts :=
  if maxBatch < t.batchSize then .fail (.fault .capacityOverflow)
  else t.populateFrom failure #[] ⟨0, 0⟩ rows

end Target

end IndicatorFeeds.Rotation

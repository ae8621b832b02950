import IndicatorFeeds.Feed.Download
import IndicatorFeeds.Job.Records
import IndicatorFeeds.Lease.KeepAlive
import IndicatorFeeds.Rotation.Generation
import IndicatorFeeds.Rotation.Populate
import IndicatorFeeds.Rotation.ShardWait

/-!
The rotation of a job's data. The next generation is built in an index that no reader looks at,
closed for writes, and awaited; writing the job's record with that index as its last one is what
puts it before the readers. The indices it replaces are removed afterwards, and those that cannot
be are kept in the record for the next time.
-/

namespace IndicatorFeeds

/-- What rotations work with. -/
structure Rotation where
  records : Job.Records
  config : Config.RotationConfig
  userAgent : String

namespace Rotation

/-- A generation that has been built. -/
structure Generation where
  index : String
  fields : List String
  counts : RowCounts
deriving Repr, DecidableEq

/-- A rotation that has succeeded. -/
structure Report where
  index : String
  counts : RowCounts
  processingMillis : UInt64
deriving Repr, DecidableEq

/-- What a data index is created with. It is not refreshed while it is being filled. -/
def dataIndexSpec : Store.IndexSpec where
  shards := 1
  replicas := 0
  refreshInterval := none
  hidden := true
  autoExpandReplicas := none
  mappings := some (.ofFields [("dynamic", .string "false"), ("properties", .ofFields [
    ("ioc_type", .ofFields [("type", .string "keyword")]),
    ("ioc_value", .ofFields [("type", .string "keyword")]),
    ("feed_id", .ofFields [("type", .string "keyword")]),
    ("timestamp", .ofFields [("type", .string "date"), ("format", .string "epoch_millis")])])])

/-- Removes an index; it may be gone already. -/
def deleteIfThere (index : String) : Program (Except Store.Error Unit) := do
  match ← Program.call (.deleteIndex index) with
  | .ok _ | .error (.indexNotFound _) => return .ok ()
  | .error e => return .error e

/-- Removes an index of the next generation's name that an earlier rotation has left behind. -/
def reclaim (record : Job.Record) (index : String) : Program Unit := do
  if record.currentIndex = some index then return ()
  let leftBehind : Bool ← Program.ofStore (← Program.call (.indexExists index))
  if leftBehind then Program.ofStore (← deleteIfThere index)

def createDataIndex (index : String) : Program Unit := do
  match ← Program.call (.createIndex index dataIndexSpec) with
  | .ok _ | .error (.alreadyExists _) => return ()
  | .error e => Program.error (.store e)

/-- Closes an index for writes and lets it have copies. -/
def freeze (index : String) : Program Unit := do
  Program.ofStore (← Program.call (.refreshIndex index))
  Program.ofStore (← Program.call (.forceMerge index 1))
  Program.ofStore (← Program.call (.updateSettings index .freeze))

/-- Builds the next generation: its header has to have the fields of the last one. -/
def build (r : Rotation) (record : Job.Record) (feed : Feed.Metadata) : Program Generation := do
  let reader ← Feed.download r.userAgent feed
  Program.ofExcept (Feed.checkHeader record.feedFields reader.fields)
  let base := baseName r.config.dataIndexPrefix record.name feed.feedId
  let index := nextName base record.currentIndex
  reclaim record index
  createDataIndex index
  let timestamp ← Program.now
  let target : Target := {
    index
    document := indicatorDocument feed timestamp
    column := feed.indicatorColumn.toNat
    batchSize := max r.config.batchSize.toNat 1 }
  let counts ← target.populate reader.rows reader.failure
  freeze index
  return ⟨index, reader.fields, counts⟩

/-- The record that serves a generation. -/
def swapped (record : Job.Record) (generation : Generation) (processingMillis : UInt64)
    (now : Instant) : Job.Record :=
  let record := { record.pushCurrentIndex generation.index with feedFields := generation.fields }
  let record := record.recordSuccess processingMillis now
  { record with state := .available }

/-- Removes indices, and says which of them could not be. -/
def removeAll : List String → Program (List String)
  | [] => return []
  | index :: rest => do
    let removed ← deleteIfThere index
    let kept ← removeAll rest
    return if removed.isOk then kept else index :: kept

/-- Removes the indices of a record that are not served, and takes them out of it. -/
def cleanUp (r : Rotation) (record : Job.Record) : Program Job.Record := do
  match record.currentIndex with
  | none => return record
  | some current =>
    let stale := record.indices.filter (· ≠ current)
    if stale.isEmpty then return record
    let kept ← removeAll stale
    let (record, _) ← r.records.save { record with indices := kept ++ [current] }
    return record

/-- Loads a feed into the next generation and serves it. The lease is renewed on a timer while the
generation is being built, and at every poll while its shards start. -/
def rotate (r : Rotation) (record : Job.Record) (feed : Feed.Metadata) :
    Program (Report × Job.Record) := do
  let started ← Program.stopwatch
  let generation ← KeepAlive.during (r.build record feed)
  (ShardWait.ofConfig r.config).run generation.index
  let processingMillis := UInt64.ofNat ((← Program.stopwatch) - started)
  let succeeded ← Program.now
  let enabled ← Program.now
  let record := (swapped record generation processingMillis succeeded).enable enabled
  let record ← r.records.update record
  let record ← r.cleanUp record
  return (⟨generation.index, generation.counts, processingMillis⟩, record)

/-- Removes all of some indices that are there; the first error of the store is the error, but all
the others are removed nevertheless. -/
def deleteIndices : List String → Program Unit
  | [] => return ()
  | index :: rest => do
    let removed ← deleteIfThere index
    let others ← (deleteIndices rest).attempt
    Program.ofStore removed
    Program.ofExcept others

end Rotation

end IndicatorFeeds

import IndicatorFeeds.Job.Schedule

namespace IndicatorFeeds

namespace Job

/-- The states of a job. -/
inductive State where
  | creating | available | createFailed | deleting | refreshing | refreshFailed
deriving Repr, DecidableEq

namespace State

def name : State → String
  | creating => "CREATING"
  | available => "AVAILABLE"
  | createFailed => "CREATE_FAILED"
  | deleting => "DELETING"
  | refreshing => "REFRESHING"
  | refreshFailed => "REFRESH_FAILED"

def all : List State :=
  [creating, available, createFailed, deleting, refreshing, refreshFailed]

def toJson (s : State) : Json.Value := .string s.name

def fromJson? : Json.Tree → Option State :=
  Json.Tree.oneOf (all.map fun s => (s.name, s))

end State

namespace Schedule

def toJson (s : Schedule) : Json.Value :=
  .ofFields [("period", .nat s.period.toNat), ("unit", .string s.unit.name),
    ("start_time", s.startTime.toJson)]

def fromJson? (t : Json.Tree) : Option Schedule := do
  let f ← t.fields ["period", "unit", "start_time"]
  return {
    period := .ofNat (← f.required "period" Json.Tree.natural)
    unit := ← f.required "unit" IntervalUnit.fromJson?
    startTime := ← f.required "start_time" Instant.fromJson? }

end Schedule

/-- When the runs of a job last ended, by how they ended. -/
structure UpdateStats where
  lastSucceededAt : Option Instant
  lastFailedAt : Option Instant
  lastSkippedAt : Option Instant
  lastProcessingMillis : Option UInt64
deriving DecidableEq

namespace UpdateStats

def none : UpdateStats := ⟨.none, .none, .none, .none⟩

def toJson (s : UpdateStats) : Json.Value :=
  .ofFields [
    ("last_succeeded_at", .ofOption Instant.toJson s.lastSucceededAt),
    ("last_failed_at", .ofOption Instant.toJson s.lastFailedAt),
    ("last_skipped_at", .ofOption Instant.toJson s.lastSkippedAt),
    ("last_processing_time_in_millis",
      .ofOption (fun n => .nat n.toNat) s.lastProcessingMillis)]

def fromJson? (t : Json.Tree) : Option UpdateStats := do
  let f ← t.fields ["last_succeeded_at", "last_failed_at", "last_skipped_at",
    "last_processing_time_in_millis"]
  let time (name : String) := f.withDefault name (Json.Tree.nullable Instant.fromJson?) .none
  return {
    lastSucceededAt := ← time "last_succeeded_at"
    lastFailedAt := ← time "last_failed_at"
    lastSkippedAt := ← time "last_skipped_at"
    lastProcessingMillis := (← f.withDefault "last_processing_time_in_millis"
      (Json.Tree.nullable Json.Tree.natural) .none).map UInt64.ofNat }

end UpdateStats

/-- The stored description of a job. -/
structure Record where
  name : String
  state : State
  schedule : Schedule
  /-- Whether ticks of the scheduler refresh the job. -/
  updateEnabled : Bool
  /-- Since when they do. -/
  enabledTime : Option Instant
  /-- The last one is being served, those before it wait for their removal. -/
  indices : List String
  updateStats : UpdateStats
  lastUpdateTime : Instant
  schemaVersion : UInt32
  /-- Header of the generation that was loaded last. -/
  feedFields : List String
deriving DecidableEq

/-- The version of the record's own layout. -/
def schemaVersion : UInt32 := 1

namespace Record

/-- A job that has loaded nothing yet. -/
def create (name : String) (schedule : Schedule) (now : Instant) : Record where
  name := name
  state := .creating
  schedule := schedule
  updateEnabled := false
  enabledTime := none
  indices := []
  updateStats := .none
  lastUpdateTime := now
  schemaVersion := Job.schemaVersion
  feedFields := []

def currentIndex (r : Record) : Option String := r.indices.getLast?

/-- Serves the index from now on; it is listed once, as the last one. -/
def pushCurrentIndex (r : Record) (index : String) : Record :=
  { r with indices := r.indices.filter (· ≠ index) ++ [index] }

/-- Lets ticks refresh the job; the time changes only if they did not. -/
def enable (r : Record) (now : Instant) : Record :=
  if r.updateEnabled then r else { r with updateEnabled := true, enabledTime := some now }

/-- Stops ticks from refreshing the job. -/
def disable (r : Record) : Record :=
  { r with updateEnabled := false, enabledTime := none }

/-- Takes a new schedule, starting now, unless its interval is the one there is. -/
def reschedule (r : Record) (schedule : Schedule) (now : Instant) :
    Except Fault (Record × Bool) := do
  if ← r.schedule.sameInterval schedule then return (r, false)
  else return ({ r with schedule := { schedule with startTime := now } }, true)

def recordSuccess (r : Record) (processingMillis : UInt64) (now : Instant) : Record :=
  { r with updateStats := { r.updateStats with
      lastSucceededAt := some now, lastProcessingMillis := some processingMillis } }

def recordFailure (r : Record) (now : Instant) : Record :=
  { r with updateStats := { r.updateStats with lastFailedAt := some now } }

def recordSkip (r : Record) (now : Instant) : Record :=
  { r with updateStats := { r.updateStats with lastSkippedAt := some now } }

def toJson (r : Record) : Json.Value :=
  .ofFields [
    ("name", .string r.name),
    ("state", r.state.toJson),
    ("schedule", r.schedule.toJson),
    ("update_enabled", .bool r.updateEnabled),
    ("enabled_time", .ofOption Instant.toJson r.enabledTime),
    ("indices", .strings r.indices),
    ("update_stats", r.updateStats.toJson),
    ("last_update_time", r.lastUpdateTime.toJson),
    ("schema_version", .nat r.schemaVersion.toNat),
    ("feed_fields", .strings r.feedFields)]

def fromJson? (t : Json.Tree) : Option Record := do
  let f ← t.fields ["name", "state", "schedule", "update_enabled", "enabled_time", "indices",
    "update_stats", "last_update_time", "schema_version", "feed_fields"]
  return {
    name := ← f.required "name" Json.Tree.text
    state := ← f.required "state" State.fromJson?
    schedule := ← f.required "schedule" Schedule.fromJson?
    updateEnabled := ← f.required "update_enabled" Json.Tree.boolean
    enabledTime := ← f.withDefault "enabled_time" (Json.Tree.nullable Instant.fromJson?) none
    indices := ← f.withDefault "indices" Json.Tree.texts []
    updateStats := ← f.withDefault "update_stats" UpdateStats.fromJson? .none
    lastUpdateTime := ← f.required "last_update_time" Instant.fromJson?
    schemaVersion := .ofNat (← f.withDefault "schema_version" Json.Tree.natural32
      Job.schemaVersion.toNat)
    feedFields := ← f.withDefault "feed_fields" Json.Tree.texts [] }

end Record

end Job

end IndicatorFeeds

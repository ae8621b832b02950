import IndicatorFeeds.Error
import IndicatorFeeds.Json.Decode

/-!
The settings of the engine, their defaults, and the combinations that are refused because a lease
could lapse between renewals or the wait for shards would mean nothing.
-/

namespace IndicatorFeeds.Config

/-- How long a lease lasts and when it is renewed. -/
structure LeaseConfig where
  durationSecs : UInt64 := 300
  /-- A lease younger than this is not renewed. -/
  renewAfterSecs : UInt64 := 120
deriving Repr, DecidableEq

/-- How a generation is loaded and awaited. -/
structure RotationConfig where
  batchSize : UInt64 := 10000
  shardWaitTimeoutMillis : UInt64 := 7200000
  shardPollIntervalMillis : UInt64 := 5000
  /-- What every data index is named with first. -/
  dataIndexPrefix : String := ""
deriving Repr, DecidableEq

structure RunnerConfig where
  maxConcurrentRuns : UInt64 := 4
deriving Repr, DecidableEq

/-- The names of the engine's own indices. -/
structure SystemIndices where
  jobs : String := ".threatintel-jobs"
  leases : String := ".threatintel-job-locks"
deriving Repr, DecidableEq

/-- How feeds are downloaded. -/
structure FetchConfig where
  connectTimeoutMillis : UInt64 := 10000
  requestTimeoutMillis : UInt64 := 1800000
  userAgent : String := "threatintel-feeds/0.1.0"
deriving Repr, DecidableEq

/-- All settings of the engine. -/
structure EngineConfig where
  lease : LeaseConfig := {}
  rotation : RotationConfig := {}
  runner : RunnerConfig := {}
  store : SystemIndices := {}
  fetch : FetchConfig := {}
deriving Repr, DecidableEq

instance : Inhabited EngineConfig := ⟨{}⟩

/-- Why settings are refused. -/
inductive EngineRefusal where
  | renewalZero
  | leaseTooShort (durationSecs renewAfterSecs : UInt64)
  | batchZero
  | pollInterval (pollMillis timeoutMillis : UInt64)
  | noRuns
  | sameIndices
deriving Repr, DecidableEq

def EngineRefusal.message : EngineRefusal → String
  | renewalZero => "lock.renew_after_secs must be positive"
  | leaseTooShort duration renewAfter =>
    s!"lock.lock_duration_secs ({duration.toNat}) must be at least twice " ++
      s!"lock.renew_after_secs ({renewAfter.toNat})"
  | batchZero => "rotation.batch_size must be positive"
  | pollInterval poll timeout =>
    s!"rotation.shard_poll_interval_ms ({poll.toNat}) must be positive and shorter than " ++
      s!"rotation.shard_wait_timeout_ms ({timeout.toNat})"
  | noRuns => "runner.max_concurrent_runs must be positive"
  | sameIndices => "store.jobs_index and store.locks_index must differ"

/-- The first reason to refuse the settings. Twice the renewal threshold is not counted beyond
`2 ^ 64 - 1`. -/
def EngineConfig.refusal? (c : EngineConfig) : Option EngineRefusal :=
  let lease := c.lease
  let rotation := c.rotation
  if lease.renewAfterSecs = 0 then some .renewalZero
  else if lease.durationSecs.toNat < min (2 * lease.renewAfterSecs.toNat) (UInt64.size - 1) then
    some (.leaseTooShort lease.durationSecs lease.renewAfterSecs)
  else if rotation.batchSize = 0 then some .batchZero
  else if rotation.shardPollIntervalMillis = 0 ||
      rotation.shardPollIntervalMillis ≥ rotation.shardWaitTimeoutMillis then
    some (.pollInterval rotation.shardPollIntervalMillis rotation.shardWaitTimeoutMillis)
  else if c.runner.maxConcurrentRuns = 0 then some .noRuns
  else if c.store.jobs = c.store.leases then some .sameIndices
  else none

/-- Refuses settings that do not fit together. -/
def EngineConfig.validate (c : EngineConfig) : Except Error Unit :=
  match c.refusal? with
  | none => .ok ()
  | some refusal => .error (.validation refusal.message)

def word (f : Json.Tree.Fields) (name : String) (missing : UInt64) : Option UInt64 :=
  (f.withDefault name Json.Tree.natural missing.toNat).map .ofNat

namespace LeaseConfig

def toJson (c : LeaseConfig) : Json.Value :=
  .ofFields [("lock_duration_secs", .nat c.durationSecs.toNat),
    ("renew_after_secs", .nat c.renewAfterSecs.toNat)]

def fromJson? (t : Json.Tree) : Option LeaseConfig := do
  let f ← t.fields ["lock_duration_secs", "renew_after_secs"]
  let c : LeaseConfig := {}
  return {
    durationSecs := ← word f "lock_duration_secs" c.durationSecs
    renewAfterSecs := ← word f "renew_after_secs" c.renewAfterSecs }

end LeaseConfig

namespace RotationConfig

def toJson (c : RotationConfig) : Json.Value :=
  .ofFields [("batch_size", .nat c.batchSize.toNat),
    ("shard_wait_timeout_ms", .nat c.shardWaitTimeoutMillis.toNat),
    ("shard_poll_interval_ms", .nat c.shardPollIntervalMillis.toNat),
    ("data_index_prefix", .string c.dataIndexPrefix)]

def fromJson? (t : Json.Tree) : Option RotationConfig := do
  let f ← t.fields ["batch_size", "shard_wait_timeout_ms", "shard_poll_interval_ms",
    "data_index_prefix"]
  let c : RotationConfig := {}
  return {
    batchSize := ← word f "batch_size" c.batchSize
    shardWaitTimeoutMillis := ← word f "shard_wait_timeout_ms" c.shardWaitTimeoutMillis
    shardPollIntervalMillis := ← word f "shard_poll_interval_ms" c.shardPollIntervalMillis
    dataIndexPrefix := ← f.withDefault "data_index_prefix" Json.Tree.text c.dataIndexPrefix }

end RotationConfig

namespace RunnerConfig

def toJson (c : RunnerConfig) : Json.Value :=
  .ofFields [("max_concurrent_runs", .nat c.maxConcurrentRuns.toNat)]

def fromJson? (t : Json.Tree) : Option RunnerConfig := do
  let f ← t.fields ["max_concurrent_runs"]
  let c : RunnerConfig := {}
  return { maxConcurrentRuns := ← word f "max_concurrent_runs" c.maxConcurrentRuns }

end RunnerConfig

namespace SystemIndices

def toJson (c : SystemIndices) : Json.Value :=
  .ofFields [("jobs_index", .string c.jobs), ("locks_index", .string c.leases)]

def fromJson? (t : Json.Tree) : Option SystemIndices := do
  let f ← t.fields ["jobs_index", "locks_index"]
  let c : SystemIndices := {}
  return {
    jobs := ← f.withDefault "jobs_index" Json.Tree.text c.jobs
    leases := ← f.withDefault "locks_index" Json.Tree.text c.leases }

end SystemIndices

namespace FetchConfig

def toJson (c : FetchConfig) : Json.Value :=
  .ofFields [("connect_timeout_ms", .nat c.connectTimeoutMillis.toNat),
    ("request_timeout_ms", .nat c.requestTimeoutMillis.toNat),
    ("user_agent", .string c.userAgent)]

def fromJson? (t : Json.Tree) : Option FetchConfig := do
  let f ← t.fields ["connect_timeout_ms", "request_timeout_ms", "user_agent"]
  let c : FetchConfig := {}
  return {
    connectTimeoutMillis := ← word f "connect_timeout_ms" c.connectTimeoutMillis
    requestTimeoutMillis := ← word f "request_timeout_ms" c.requestTimeoutMillis
    userAgent := ← f.withDefault "user_agent" Json.Tree.text c.userAgent }

end FetchConfig

namespace EngineConfig

def toJson (c : EngineConfig) : Json.Value :=
  .ofFields [("lock", c.lease.toJson), ("rotation", c.rotation.toJson),
    ("runner", c.runner.toJson), ("store", c.store.toJson), ("fetch", c.fetch.toJson)]

def fromJson? (t : Json.Tree) : Option EngineConfig := do
  let f ← t.fields ["lock", "rotation", "runner", "store", "fetch"]
  let c : EngineConfig := {}
  return {
    lease := ← f.withDefault "lock" LeaseConfig.fromJson? c.lease
    rotation := ← f.withDefault "rotation" RotationConfig.fromJson? c.rotation
    runner := ← f.withDefault "runner" RunnerConfig.fromJson? c.runner
    store := ← f.withDefault "store" SystemIndices.fromJson? c.store
    fetch := ← f.withDefault "fetch" FetchConfig.fromJson? c.fetch }

end EngineConfig

end IndicatorFeeds.Config

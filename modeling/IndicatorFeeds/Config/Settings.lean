import IndicatorFeeds.Config.Error
import IndicatorFeeds.Config.File
import IndicatorFeeds.Config.Overrides
import IndicatorFeeds.Feed.Manifest
import IndicatorFeeds.Number.Word
import IndicatorFeeds.Url.Parser

namespace IndicatorFeeds.Config

/-- How resolving settings can end without them. -/
inductive Failure where
  | error (e : LoadError)
  | fault (f : Fault)
deriving Repr, DecidableEq

/-- Where jobs and leases are kept. -/
inductive StoreBackend where
  /-- In the process, empty at its start. -/
  | memory
  | openSearch (url : Url) (requestTimeout : Duration)

/-- Something the user should know, with what can be done about it. -/
structure Warning where
  message : String
  hint : String
deriving Repr, DecidableEq

namespace Warning

def noFile : Warning :=
  ⟨"No threatintel.toml detected; using defaults and environment variables",
    "Create threatintel.toml or point THREATINTEL_CONFIG at one"⟩

def memoryStore : Warning :=
  ⟨"Using the in-memory store; job state is lost when the process exits",
    "Set store.url or THREATINTEL_OPENSEARCH_URL to persist jobs"⟩

def noManifest (path : String) : Warning :=
  ⟨s!"feed manifest {path} does not exist yet",
    "Jobs cannot be created or refreshed until it lists their feeds"⟩

end Warning

def durationOf (key raw : String) : Except Failure Duration :=
  match Duration.parse (Text.trim raw) with
  | .ok d => .ok d
  | .error (.refused why) => .error (.error (.invalidDuration key raw why))
  | .error (.fault f) => .error (.fault f)

def numberOf (key raw : String) : Except Failure UInt64 :=
  match Number.word? (Text.trim raw) with
  | some n => .ok n
  | none => .error (.error (.invalidNumber key raw))

/-- The reading of an override, or what the setting is without one. -/
def overridden (given : Option String) (current : α) (read : String → Except Failure α) :
    Except Failure α :=
  match given with
  | some raw => read raw
  | none => .ok current

/-- The whole seconds that an override states. -/
def secondsOf (key raw : String) : Except Failure UInt64 :=
  (durationOf key raw).map fun d => .ofNat d.secs

/-- The whole milliseconds that an override states, counted in 64 bits. -/
def millisOf (key raw : String) : Except Failure UInt64 :=
  (durationOf key raw).map fun d => .ofNat d.millis

/-- The engine's settings with the overrides; of several texts that cannot be read, the first
counts. -/
def Overrides.applyTo (o : Overrides) (c : EngineConfig) : Except Failure EngineConfig := do
  let durationSecs ←
    overridden o.leaseDuration c.lease.durationSecs (secondsOf leaseDurationVariable)
  let renewAfterSecs ←
    overridden o.renewAfter c.lease.renewAfterSecs (secondsOf renewAfterVariable)
  let shardWaitTimeoutMillis ← overridden o.shardWaitTimeout c.rotation.shardWaitTimeoutMillis
    (millisOf shardWaitTimeoutVariable)
  let shardPollIntervalMillis ← overridden o.shardPollInterval c.rotation.shardPollIntervalMillis
    (millisOf shardPollIntervalVariable)
  let batchSize ← overridden o.batchSize c.rotation.batchSize (numberOf batchSizeVariable)
  let maxConcurrentRuns ← overridden o.maxConcurrentRuns c.runner.maxConcurrentRuns
    (numberOf maxConcurrentRunsVariable)
  let dataIndexPrefix := o.dataIndexPrefix.getD c.rotation.dataIndexPrefix
  return { c with
    lease := ⟨durationSecs, renewAfterSecs⟩
    rotation := ⟨batchSize, shardWaitTimeoutMillis, shardPollIntervalMillis, dataIndexPrefix⟩
    runner := ⟨maxConcurrentRuns⟩ }

theorem Overrides.applyTo_durations {o : Overrides} {c c' : EngineConfig}
    (applied : o.applyTo c = .ok c') :
    overridden o.leaseDuration c.lease.durationSecs (secondsOf leaseDurationVariable) =
        .ok c'.lease.durationSecs ∧
      overridden o.renewAfter c.lease.renewAfterSecs (secondsOf renewAfterVariable) =
        .ok c'.lease.renewAfterSecs ∧
      overridden o.shardWaitTimeout c.rotation.shardWaitTimeoutMillis
        (millisOf shardWaitTimeoutVariable) = .ok c'.rotation.shardWaitTimeoutMillis ∧
      overridden o.shardPollInterval c.rotation.shardPollIntervalMillis
        (millisOf shardPollIntervalVariable) = .ok c'.rotation.shardPollIntervalMillis := by
  unfold applyTo at applied
  obtain ⟨duration, lasts, applied⟩ := ok_of_bind_ok applied
  obtain ⟨renewal, renews, applied⟩ := ok_of_bind_ok applied
  obtain ⟨timeout, waits, applied⟩ := ok_of_bind_ok applied
  obtain ⟨interval, polls, applied⟩ := ok_of_bind_ok applied
  obtain ⟨batch, -, applied⟩ := ok_of_bind_ok applied
  obtain ⟨runs, -, applied⟩ := ok_of_bind_ok applied
  cases applied
  exact ⟨lasts, renews, waits, polls⟩

/-- The engine's settings, refused if they do not fit together. -/
def engineSettings (file : FileConfig) (o : Overrides) : Except Failure EngineConfig := do
  let c ← o.applyTo file.engine
  match c.validate with
  | .ok () => return c
  | .error cause => throw (.error (.engine cause))

theorem engineSettings_eq_ok_iff {file : FileConfig} {o : Overrides} {c : EngineConfig} :
    engineSettings file o = .ok c ↔ o.applyTo file.engine = .ok c ∧ c.validate = .ok () := by
  unfold engineSettings
  constructor
  · intro settings
    obtain ⟨made, applied, settings⟩ := ok_of_bind_ok settings
    cases valid : made.validate with
    | error cause =>
      rw [valid] at settings
      cases settings
    | ok =>
      rw [valid] at settings
      cases settings
      exact ⟨applied, valid⟩
  · rintro ⟨applied, valid⟩
    rw [applied]
    simp only [bind, Except.bind, valid]
    rfl

/-- How long the store's server may take for an answer, unless something else is said. -/
def defaultRequestTimeout : Duration := ⟨30, 0, by decide⟩

/-- The store to use. A URL alone chooses the server; without one the store is in memory. -/
def storeSettings (file : FileStore) (o : Overrides) : Except Failure StoreBackend := do
  let url := o.storeUrl.orElse fun _ => file.url
  let backend := (o.storeBackend.orElse fun _ => file.backend).getD
    (if url.isSome then "opensearch" else "memory")
  match (Text.trim backend).map Char.toLower with
  | "opensearch" =>
    match url with
    | none => throw (.error .missingStoreUrl)
    | some raw =>
      match Url.parse (Text.trim raw) with
      | .error cause => throw (.error (.invalidStoreUrl raw cause))
      | .ok url =>
        let timeout ← overridden
          (o.storeRequestTimeout.orElse fun _ => file.requestTimeout) defaultRequestTimeout
          (durationOf "store.request_timeout")
        return .openSearch url timeout
  | "memory" => return .memory
  | name => throw (.error (.unknownStoreBackend name))

/-- Where the manifest of feeds is. -/
def manifestSetting (file : FileConfig) (o : Overrides) : String :=
  (o.feedManifest.orElse fun _ => file.manifest).getD Feed.manifestPath

end IndicatorFeeds.Config

import IndicatorFeeds.Rotation.Basic

/-!
Runs of jobs. Every run takes the lease of its job, looks at the job's record, and gives the lease
back however it ends; how it has ended is an outcome, never an error.
-/

namespace IndicatorFeeds

/-- What a run has done. -/
inductive Outcome where
  /-- A new generation is being served. -/
  | refreshed (index : String)
  /-- Ticks do not refresh the job. -/
  | skipped
  /-- Someone else holds the lease. -/
  | locked
  /-- The job was in a state without ticks; they no longer refresh it. -/
  | invalid (state : Job.State)
  /-- There is no such job. -/
  | missing
  | failed (reason : String)
deriving Repr, DecidableEq

/-- A run that has been started: nothing of it has happened yet but what starting it takes. -/
structure Run where
  job : String
  work : Program Outcome

/-- The outcome of a run; a fault ends the run and nothing else. -/
def Run.outcome (run : Run) : Program Outcome :=
  run.work.orOnFault fun _ => .failed "task aborted"

/-- What runs jobs. -/
structure Runner where
  config : Config.EngineConfig
  leases : LeaseService
  records : Job.Records

namespace Runner

/-- A runner with these settings, and a lease service of this number. -/
def create (config : Config.EngineConfig) (service : Nat) : Except Failure Runner := do
  if !Http.isUserAgent config.fetch.userAgent then throw (.error (.fetch "builder error"))
  config.validate.mapError .error
  let leases ← (LeaseService.create service config.store.leases
    config.lease.renewAfterSecs).mapError .fault
  if maxRuns < config.runner.maxConcurrentRuns.toNat then throw (.fault .tooManyRuns)
  return ⟨config, leases, ⟨config.store.jobs⟩⟩

def rotation (r : Runner) : Rotation := ⟨r.records, r.config.rotation, r.config.fetch.userAgent⟩

def acquire (r : Runner) (name : String) : Program (Option Lease) :=
  r.leases.acquire name r.config.lease.durationSecs

/-- Writes a record; an error of the store is passed over. -/
def saveQuietly (r : Runner) (record : Job.Record) : Program Unit := do
  let _ ← r.records.save record

/-- The state of a job while a run loads its next generation. -/
def inProgress (record : Job.Record) : Job.State :=
  if record.currentIndex.isSome then .refreshing else .creating

/-- The record after a run that has failed. A refresh that has failed is not tried again by
ticks. -/
def afterFailure (record : Job.Record) (state : Job.State) (now : Instant) : Job.Record :=
  let record := { record with state }.recordFailure now
  if state = .refreshFailed then record.disable else record

/-- Rotates the data of a job with the feed that the catalog has for it. -/
def rotateRecord (r : Runner) (record : Job.Record) : Program String := do
  match ← Program.feedFor record.name with
  | none => Program.error (.notFound s!"no feed configured for job {record.name}")
  | some feed =>
    let (report, _) ← r.rotation.rotate record feed
    return report.index

/-- Rotates the data of a job whose lease is held, and records how that has ended. -/
def executeRotation (r : Runner) (record : Job.Record) (failureState : Job.State) :
    Program Outcome := do
  let state := inProgress record
  let (record, marked) ←
    if record.state = state then pure (record, .ok ()) else r.records.save { record with state }
  match marked with
  | .error e => return .failed (Error.store e).message
  | .ok _ =>
    match ← (r.rotateRecord record).attempt with
    | .ok index => return .refreshed index
    | .error e =>
      r.saveQuietly (afterFailure record failureState (← Program.now))
      return .failed e.message

/-- What a tick does with a job whose lease is held. -/
def scheduledUpdate (r : Runner) (name : String) : Program Outcome := do
  match ← (r.records.get name).attempt with
  | .error e => return .failed e.message
  | .ok none => return .missing
  | .ok (some record) =>
    if record.state ≠ .available then
      r.saveQuietly (record.disable.recordFailure (← Program.now))
      return .invalid record.state
    else if !record.updateEnabled then
      r.saveQuietly (record.recordSkip (← Program.now))
      return .skipped
    else r.executeRotation record .refreshFailed

/-- The outcome of a run that has given its lease back. -/
def settled : Except Error Outcome → Outcome
  | .ok outcome => outcome
  | .error e => .failed e.message

def runScheduled (r : Runner) (name : String) : Program Outcome := do
  match ← (r.acquire name).attempt with
  | .error e => return .failed e.message
  | .ok none => return .locked
  | .ok (some lease) =>
    return settled (← r.leases.withLease lease (r.scheduledUpdate name))

/-- A tick that waits for its turn. -/
def runJob (r : Runner) (name : String) : Run where
  job := name
  work := do
    let _ ← Program.request .turn
    r.runScheduled name

/-- A rotation that waits for its turn with the lease held. -/
def startRotation (r : Runner) (record : Job.Record) (lease : Lease) (failureState : Job.State) :
    Run where
  job := record.name
  work := do
    let work := do
      let _ ← KeepAlive.during (Program.request .turn)
      r.executeRotation record failureState
    return settled (← r.leases.withLease lease work)

end Runner

end IndicatorFeeds

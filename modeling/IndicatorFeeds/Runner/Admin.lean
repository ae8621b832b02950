import IndicatorFeeds.Job.Name
import IndicatorFeeds.Runner.Basic

namespace IndicatorFeeds

/-- What to change on a job; the unset parts stay. -/
structure JobUpdate where
  schedule : Option Job.Schedule := none
  updateEnabled : Option Bool := none

def Job.checkName (name : String) : Except Error Unit :=
  match Job.nameRefusal? name with
  | some refusal => .error (.validation refusal.message)
  | none => .ok ()

namespace Runner

/-- Refuses a schedule that cannot be kept. -/
def checkSchedule (schedule : Job.Schedule) : Program Unit := do
  match ← Program.ofTime schedule.refusal? with
  | some refusal => Program.error refusal
  | none => return ()

/-- Takes the lease of a job, or fails because someone else has it. -/
def acquireOrContend (r : Runner) (name : String) : Program Lease := do
  match ← r.acquire name with
  | some lease => return lease
  | none => Program.error (.contention s!"job {name} is locked")

/-- Fails after giving a lease back. -/
def releaseAndFail (r : Runner) (lease : Lease) (e : Error) : Program α := do
  r.leases.releaseQuietly lease
  Program.error e

private def noFeed (name : String) : Error := .validation s!"no feed configured for job {name}"

def createJob (r : Runner) (name : String) (schedule : Job.Schedule) : Program Run := do
  Program.ofExcept (Job.checkName name)
  checkSchedule schedule
  let feed ← Program.feedFor name
  if feed.isNone then Program.error (noFeed name)
  r.records.createIndexIfAbsent
  let lease ← acquireOrContend r name
  match ← (r.records.put (.create name schedule (← Program.now))).attempt with
  | .error e => releaseAndFail r lease e
  | .ok record => return r.startRotation record lease .createFailed

def getJobs (r : Runner) : Option (List String) → Program (List Job.Record)
  | some names => r.records.getAll names
  | none => r.records.list

def requireRecord (r : Runner) (name : String) : Program Job.Record := do
  match ← r.records.get name with
  | some record => return record
  | none => Program.error (.notFound s!"job {name}")

/-- The record with a schedule, if one is given. -/
def rescheduled (record : Job.Record) : Option Job.Schedule → Program Job.Record
  | none => return record
  | some schedule => do
    return (← Program.ofTime (record.reschedule schedule (← Program.now))).1

/-- The record with ticks that refresh it or do not, if one of the two is asked for. -/
def withTicks (record : Job.Record) : Option Bool → Program Job.Record
  | none => return record
  | some true => return record.enable (← Program.now)
  | some false => return record.disable

/-- Changes an available job whose lease is held, if its feed still has the recorded fields. -/
def updateHeld (r : Runner) (name : String) (update : JobUpdate) : Program Job.Record := do
  let record ← requireRecord r name
  if record.state ≠ .available then
    Program.error
      (.validation s!"job {name} is {record.state.name}, updates require AVAILABLE")
  match ← Program.feedFor name with
  | none => Program.error (noFeed name)
  | some feed =>
    let reader ← Feed.download r.config.fetch.userAgent feed
    Program.ofExcept (Feed.checkHeader record.feedFields reader.fields)
    let record ← withTicks (← rescheduled record update.schedule) update.updateEnabled
    r.records.update record

/-- Runs an operation on a job under its lease. -/
def underLease (r : Runner) (name : String) (work : Program α) : Program α := do
  let lease ← acquireOrContend r name
  Program.ofExcept (← r.leases.withLease lease (KeepAlive.during work))

def updateJob (r : Runner) (name : String) (update : JobUpdate) : Program Job.Record := do
  match update.schedule with
  | some schedule => checkSchedule schedule
  | none => pure ()
  underLease r name (r.updateHeld name update)

/-- The indices that go with a job: those of its record and both generations of its feed. Without
an entry in the catalog the feed's id is taken to be the job's name; if the catalog fails, the
record's indices are all. -/
def indicesOf (r : Runner) (record : Job.Record) : Program (List String) := do
  match ← (Program.feedFor record.name).attempt with
  | .error _ => return record.indices
  | .ok feed =>
    let feedId := (feed.map (·.feedId)).getD record.name
    let base := Rotation.baseName r.config.rotation.dataIndexPrefix record.name feedId
    return record.indices ++ (Rotation.generationNames base).filter (!record.indices.contains ·)

/-- Deletes a job whose lease is held. If an index cannot be removed, the job stays as it was. -/
def deleteHeld (r : Runner) (name : String) : Program Unit := do
  let record ← requireRecord r name
  let previous := record.state
  let record ← r.records.update { record with state := .deleting }
  let indices ← r.indicesOf record
  match ← (Rotation.deleteIndices indices).attempt with
  | .error e =>
    r.saveQuietly { record with state := previous }
    Program.error e
  | .ok _ => r.records.delete name

def deleteJob (r : Runner) (name : String) : Program Unit :=
  underLease r name (r.deleteHeld name)

/-- Starts a rotation now, whatever the schedule says. -/
def refreshJob (r : Runner) (name : String) : Program Run := do
  let lease ← acquireOrContend r name
  match ← (r.records.get name).attempt with
  | .error e => releaseAndFail r lease e
  | .ok none => releaseAndFail r lease (.notFound s!"job {name}")
  | .ok (some record) =>
    if record.state = .deleting then
      releaseAndFail r lease (.validation s!"job {name} is being deleted")
    else
      let failureState : Job.State :=
        if record.currentIndex.isSome then .refreshFailed else .createFailed
      return r.startRotation record lease failureState

end Runner

end IndicatorFeeds

import IndicatorFeeds.Proofs.Runner.Deletion
import IndicatorFeeds.Proofs.Runner.Executed

/-!
What operations on a job make of its record. In any store an operation changes nothing but what
belongs to the job. If it finds the job at rest it leaves it so: the lease is given back, and the
record is as it was, or rewritten, or removed, or has been through a rotation.
-/

namespace IndicatorFeeds.Runner

open Store (Memory MemoryIndex Call)
open Program Rotation

variable {r : Runner} {allows : (r : Request) → r.Answer → Prop} {name : String}
  {may : String → Prop} {writes : Option Job.Record → Prop} {record : Job.Record}
  {failureState : Job.State} {m m' : Memory}

/-- The operations on a job, each followed to its end. -/
inductive Operates (r : Runner) (name : String) : {α : Type} → Program α → Prop where
  | create (schedule : Job.Schedule) :
      Operates r name ((r.createJob name schedule).bind Run.outcome)
  | refresh : Operates r name ((r.refreshJob name).bind Run.outcome)
  | scheduled : Operates r name (r.runScheduled name)
  | tick : Operates r name (r.runJob name).outcome
  | update (update : JobUpdate) : Operates r name (r.updateJob name update)
  | delete : Operates r name (r.deleteJob name)

/-- What may be made of a record by switching ticks. -/
inductive Switched (record : Job.Record) : Job.Record → Prop where
  | left : Switched record record
  | on (now : Instant) : Switched record (record.enable now)
  | off : Switched record record.disable

/-- What a tick may make of a record that it does not refresh. -/
inductive Noted (allows : (r : Request) → r.Answer → Prop) (record : Job.Record) :
    Job.Record → Prop where
  /-- A tick has come in a state without ticks. -/
  | stopped (now later : Instant) (state : record.state ≠ .available) (allowed : Tells allows now)
      (allowed' : Tells allows later) :
      Noted allows record ((record.disable.recordFailure now).writtenAt later)
  /-- A tick has come that does not refresh the job. -/
  | skipped (now later : Instant) (state : record.state = .available) (allowed : Tells allows now)
      (allowed' : Tells allows later) : Noted allows record ((record.recordSkip now).writtenAt later)

/-- What an update may make of a record: another schedule only if it has another interval. -/
inductive Updated (allows : (r : Request) → r.Answer → Prop) (record : Job.Record) :
    Job.Record → Prop where
  | mk {schedule : Job.Schedule} {changed : Job.Record} (later : Instant)
      (state : record.state = .available)
      (lasting : (∃ span, record.schedule.interval = .ok span) →
        ∃ span, schedule.interval = .ok span)
      (rescheduled : schedule = record.schedule ∨
        record.schedule.sameInterval schedule = .ok false)
      (switched : Switched { record with schedule } changed) (allowed : Tells allows later) :
      Updated allows record (changed.writtenAt later)

/-- What may be made of a record without a rotation. -/
inductive Rewritten (allows : (r : Request) → r.Answer → Prop) (record : Job.Record) :
    Job.Record → Prop where
  /-- A deletion has failed. -/
  | restored (later : Instant) : Rewritten allows record (record.writtenAt later)
  | noted {record' : Job.Record} (noted : Noted allows record record') :
      Rewritten allows record record'
  | updated {record' : Job.Record} (updated : Updated allows record record') :
      Rewritten allows record record'

/-- The state of a job on demand whose rotation has failed. -/
def failureStateOf (record : Job.Record) : Job.State :=
  if record.currentIndex.isSome then .refreshFailed else .createFailed

/-- The rotations that begin with a job at rest, and the states that they leave if they fail. -/
inductive Begins (r : Runner) (allows : (r : Request) → r.Answer → Prop) (name : String)
    (m : Memory) : Job.Record → Job.State → Prop where
  | ticked {record : Job.Record} (holds : r.records.Holds m name record)
      (state : record.state = .available) (enabled : record.updateEnabled = true) :
      Begins r allows name m record .refreshFailed
  | asked {record : Job.Record} (holds : r.records.Holds m name record)
      (state : record.state ≠ .deleting) : Begins r allows name m record (failureStateOf record)
  | created {schedule : Job.Schedule} (now later : Instant)
      (absent : m.document? r.records.index name = none)
      (lasting : ∃ span, schedule.interval = .ok span) (allowed : Tells allows later) :
      Begins r allows name m ((Job.Record.create name schedule now).writtenAt later) .createFailed

/-- What an operation may write as the record of its job, if it is no deletion: a record that a
rotation begins with or makes, or one that is rewritten so. -/
inductive Writes (r : Runner) (allows : (r : Request) → r.Answer → Prop) (name : String) (m : Memory)
    (rewrites : Job.Record → Job.Record → Prop) : Option Job.Record → Prop where
  | begun {record : Job.Record} {failureState : Job.State}
      (absent : m.document? r.records.index name = none)
      (begins : r.Begins allows name m record failureState) :
      Writes r allows name m rewrites (some record)
  | rotated {record record' : Job.Record} {failureState : Job.State}
      (begins : r.Begins allows name m record failureState)
      (rotates : r.Rotates allows record failureState record') :
      Writes r allows name m rewrites (some record')
  | rewritten {record record' : Job.Record} (holds : r.records.Holds m name record)
      (rewritten : rewrites record record') : Writes r allows name m rewrites (some record')

/-- What an operation may make of the record of its job on its way. -/
def MayWrite (r : Runner) (allows : (r : Request) → r.Answer → Prop) (name : String) (m : Memory)
    (record : Option Job.Record) : Prop :=
  r.Writes allows name m (fun record record' => Noted allows record record' ∨
    Updated allows record record') record ∨ r.Erases allows name m record

theorem Writes.mono {rewrites rewrites' : Job.Record → Job.Record → Prop} {written : Option Job.Record}
    (writes : r.Writes allows name m rewrites written)
    (more : ∀ record record', rewrites record record' → rewrites' record record') :
    r.Writes allows name m rewrites' written := by
  cases writes with
  | begun absent begins => exact .begun absent begins
  | rotated begins rotates => exact .rotated begins rotates
  | rewritten holds rewritten => exact .rewritten holds (more _ _ rewritten)

/-- What an operation may make of the record of its job. -/
inductive Turned (r : Runner) (allows : (r : Request) → r.Answer → Prop) (name : String)
    (m m' : Memory) : Prop where
  | kept (same : m'.document? r.records.index name = m.document? r.records.index name)
  | removed (gone : m'.document? r.records.index name = none)
  | rewritten {record record' : Job.Record} (holds : r.records.Holds m name record)
      (rewritten : Rewritten allows record record') (stored : r.records.Holds m' name record')
  | executed {record : Job.Record} {failureState : Job.State} {outcome : Outcome}
      (begins : r.Begins allows name m record failureState)
      (executed : r.Executed allows record failureState m' outcome)

/-- An operation has ended: nobody has the lease, and the record is what may be made of it. -/
structure Left (r : Runner) (allows : (r : Request) → r.Answer → Prop) (name : String)
    (m m' : Memory) : Prop where
  free : m'.document? r.leases.index name = none
  turned : r.Turned allows name m m'

/-- How an operation ends: neither lease nor record is other than before, or the job is left, or a fault
has aborted it. -/
inductive Closed (r : Runner) (allows : (r : Request) → r.Answer → Prop) (name : String)
    (m m' : Memory) : Prop where
  | aside (lease : m'.document? r.leases.index name = m.document? r.leases.index name)
      (record : m'.document? r.records.index name = m.document? r.records.index name)
  | left (left : r.Left allows name m m')
  | aborted {f : Fault} (fault : r.Aborting allows f ∨
      ∃ record, r.records.Holds m name record ∧ record.schedule.interval = .error f)

theorem Ready.left (ready : r.Ready allows name may m) (closed : r.Closed allows name m m') :
    r.Left allows name m m' := by
  cases closed with
  | aside lease record => exact ⟨lease.trans ready.free, .kept record⟩
  | left left => exact left
  | @aborted f fault =>
    rcases fault with aborting | ⟨record, holds, endless⟩
    · exact absurd aborting (ready.unaborted f)
    · obtain ⟨span, interval⟩ := ready.lasting record holds
      cases endless.symm.trans interval

private theorem closed_of_untouched (apart : r.leases.index ≠ r.records.index)
    (untouched : r.Untouched name m m') : r.Closed allows name m m' :=
  .aside untouched.lease (untouched.record apart)

theorem Extent.of_begins (extent : r.Extent allows name may m)
    (begins : r.Begins allows name m record failureState) :
    record.name = name ∧ (∀ i ∈ record.indices, r.IsData i ∧ may i) ∧
      ∀ feed, allows (.feedFor record.name) (.ok (some feed)) →
        r.IsData (r.nextIndex record feed) ∧ may (r.nextIndex record feed) := by
  have generations (named : record.name = name) (feed : Feed.Metadata)
      (found : allows (.feedFor record.name) (.ok (some feed))) :
      r.IsData (r.nextIndex record feed) ∧ may (r.nextIndex record feed) := by
    subst named
    exact extent.names feed found _ (nextName_mem _ _)
  cases begins with
  | ticked holds | asked holds =>
    have named := extent.named _ holds
    exact ⟨named, extent.listed _ holds, generations named⟩
  | created => exact ⟨rfl, nofun, generations rfl⟩

/-- What has become of a record is not changed by what becomes of the lease. -/
private theorem Turned.ignores (extent : r.Extent allows name may m) :
    r.leases.Ignores (r.Turned allows name m) := by
  intro m₁ m₂ faults same turned
  have records := same r.records.index extent.apart.symm
  have document : m₂.document? r.records.index name = m₁.document? r.records.index name := by
    rw [Memory.document?, Memory.document?, records]
  cases turned with
  | kept same => exact .kept (document.trans same)
  | removed gone => exact .removed (document.trans gone)
  | rewritten holds rewritten stored => exact .rewritten holds rewritten (stored.congr records)
  | executed begins executed =>
    obtain ⟨-, listed, names⟩ := extent.of_begins begins
    exact .executed begins (executed.ignores extent.apart (fun i member => (listed i member).1)
      (fun feed found => (names feed found).1) _ m₁ m₂ faults same)

/-- A rotation that has begun ends with its lease given back, unless a fault aborts it. -/
theorem Extent.along_startRotation {x : Moment} {lease : Lease}
    (extent : r.Extent allows name may m) (taken : r.Taken allows name (x, lease))
    (begins : r.Begins allows name m record failureState)
    (rotates : ∀ record', r.Rotates allows record failureState record' → writes (some record')) :
    Along (Moment.surroundings allows) Eq (r.Confined name may writes)
      (Settles (fun outcome y => outcome = .failed "task aborted" ∧ (∃ f, r.Aborting allows f) ∨
        y.store.document? r.leases.index name = none ∧
          r.Executed allows record failureState y.store outcome) fun _ _ => False)
      (r.startRotation record lease failureState).outcome x := by
  obtain ⟨named, listed, names⟩ := extent.of_begins begins
  let ends (result : Except Error Outcome) (m' : Memory) : Prop :=
    ∃ outcome, result = .ok outcome ∧ r.Executed allows record failureState m' outcome
  have ignores (result : Except Error Outcome) : r.leases.Ignores (ends result) := by
    rintro m₁ m₂ faults same ⟨outcome, rfl, executed⟩
    exact ⟨outcome, rfl, executed.ignores extent.apart (fun i member => (listed i member).1)
      (fun feed found => (names feed found).1) _ m₁ m₂ faults same⟩
  have works : Along (r.held allows) Eq (r.Runs name may writes) (Worked ends r.Crowded)
      ((KeepAlive.during (Program.request .turn)).bind fun _ =>
        r.executeRotation record failureState) (x, lease) := by
    refine along_bind_iff.mpr (Along.during (fun _ _ => .of_renewed extent.apart)
      (fun x a y answered => (held_of_other answered nofun nofun).2) .refl ?_)
    intro y renewals _ z answered
    obtain ⟨-, rfl⟩ := held_of_other answered nofun nofun
    have unwritten : r.Unwritten z := fun i => (taken.unwritten i).renewals renewals
    refine ⟨.refl z, (along_executed extent.apart listed names rotates unwritten).mono (fun _ _ => id)
      (fun _ _ => named ▸ id) fun result w executed => ?_⟩
    match result with
    | .ok outcome => exact ⟨outcome, rfl, executed⟩
    | .error (.fault _) => exact executed
  refine along_orOnFault_iff.mpr (along_bind_iff.mpr ((along_withLease_confined extent.apart taken.holds
    taken.owned taken.timely ignores works).weaken fun result y returned => ?_))
  match result with
  | .ok result =>
    obtain ⟨⟨outcome, rfl, executed⟩, free⟩ := returned
    exact .inr ⟨free, executed⟩
  | .error (.fault f) => exact .inl ⟨rfl, f, returned.symm⟩

/-- How a tick ends that has the lease of a job at rest: there is no record, or the tick has not
refreshed the job, or it has been through a rotation. -/
inductive Scheduled (r : Runner) (allows : (r : Request) → r.Answer → Prop) (name : String)
    (m m' : Memory) : Outcome → Prop where
  | unreadable {e : Error} (unknown : r.Unknown name m e)
      (same : m'.document? r.records.index name = m.document? r.records.index name) :
      Scheduled r allows name m m' (.failed e.message)
  | missing (same : m'.document? r.records.index name = m.document? r.records.index name) :
      Scheduled r allows name m m' .missing
  | stopped {state : Job.State} (turned : r.Turned allows name m m') :
      Scheduled r allows name m m' (.invalid state)
  | skipped (turned : r.Turned allows name m m') : Scheduled r allows name m m' .skipped
  | executed {record : Job.Record} {outcome : Outcome} (holds : r.records.Holds m name record)
      (state : record.state = .available) (enabled : record.updateEnabled = true)
      (executed : r.Executed allows record .refreshFailed m' outcome) :
      Scheduled r allows name m m' outcome

theorem Scheduled.turned {outcome : Outcome} (scheduled : r.Scheduled allows name m m' outcome) :
    r.Turned allows name m m' := by
  cases scheduled with
  | unreadable _ same | missing same => exact .kept same
  | stopped turned | skipped turned => exact turned
  | executed holds state enabled executed =>
    exact .executed (.ticked holds state enabled) executed

/-- How a tick has ended is not changed by what becomes of its lease. -/
private theorem Scheduled.ignores (extent : r.Extent allows name may m) (outcome : Outcome) :
    r.leases.Ignores fun m' => r.Scheduled allows name m m' outcome := by
  intro m₁ m₂ faults same scheduled
  have document : m₂.document? r.records.index name = m₁.document? r.records.index name := by
    rw [Memory.document?, Memory.document?, same r.records.index extent.apart.symm]
  cases scheduled with
  | unreadable unknown kept => exact .unreadable unknown (document.trans kept)
  | missing kept => exact .missing (document.trans kept)
  | stopped turned => exact .stopped (Turned.ignores extent _ _ faults same turned)
  | skipped turned => exact .skipped (Turned.ignores extent _ _ faults same turned)
  | executed holds state enabled executed =>
    obtain ⟨-, listed, names⟩ := extent.of_begins (.ticked holds state enabled)
    exact .executed holds state enabled (executed.ignores extent.apart (fun i member => (listed i member).1)
      (fun feed found => (names feed found).1) _ m₁ m₂ faults same)

private theorem Extent.along_rewrite {x : Moment × Lease} {changed : Job.Record}
    {outcome : Outcome} (extent : r.Extent allows name may m) (agrees : r.Agrees m x.1.store)
    (holds : r.records.Holds m name record) (named : changed.name = name)
    (noted : ∀ later, Tells allows later → Noted allows record (changed.writtenAt later))
    (ends : ∀ m', r.Turned allows name m m' → r.Scheduled allows name m m' outcome) :
    Along (r.held allows) Eq (r.Runs name may (r.Writes allows name m (Noted allows)))
      (Concludes (fun outcome y => r.Scheduled allows name m y.1.store outcome) (fun _ _ => False)
        fun f _ => r.Crowded f) ((r.saveQuietly changed).bind fun _ => done outcome) x := by
  refine along_bind_iff.mpr (along_saveQuietly .refl (fun later y allowed saved => ?_) fun _ =>
    ends _ (.kept (agrees.document? extent.apart)))
  have there := saved.holds
  have noted := noted later allowed
  exact ⟨.of_saved extent.apart saved named (.rewritten holds noted),
    ends _ (.rewritten holds (.noted noted) (named ▸ there))⟩

private theorem Extent.along_scheduledUpdate {x : Moment × Lease}
    (extent : r.Extent allows name may m) (taken : r.Taken allows name x)
    (agrees : r.Agrees m x.1.store) :
    Along (r.held allows) Eq (r.Runs name may (r.Writes allows name m (Noted allows)))
      (Concludes (fun outcome y => r.Scheduled allows name m y.1.store outcome) (fun _ _ => False)
        fun f _ => r.Crowded f) (r.scheduledUpdate name) x := by
  have document : x.1.store.document? r.records.index name = m.document? r.records.index name :=
    agrees.document? extent.apart
  refine along_scheduled m .refl document (fun none => .unreadable (.unreadable none) document)
    (fun _ => .missing document) ?_ ?_ ?_
  · intro record now holds state allowed
    exact extent.along_rewrite agrees holds (extent.named record holds)
      (fun later => .stopped now later state allowed) fun _ => .stopped
  · intro record now holds state allowed
    exact extent.along_rewrite agrees holds (extent.named record holds)
      (fun later => .skipped now later state allowed) fun _ => .skipped
  · intro record holds state enabled
    have named := extent.named record holds
    have begins : r.Begins allows name m record .refreshFailed := .ticked holds state enabled
    obtain ⟨-, listed, names⟩ := extent.of_begins begins
    have rotated (record' : Job.Record) (rotates : r.Rotates allows record .refreshFailed record') :
        r.Writes allows name m (Noted allows) (some record') := .rotated begins rotates
    refine (along_executed extent.apart listed names rotated taken.unwritten).mono (fun _ _ => id)
      (fun _ _ => named ▸ id) fun result y ended => ?_
    match result with
    | .ok _ => exact .executed holds state enabled ended
    | .error (.fault _) => exact ended

/-- How a tick ends, with the lease of its job or without. -/
def Ticked (r : Runner) (allows : (r : Request) → r.Answer → Prop) (name : String) (m m' : Memory) :
    Except Failure Outcome → Prop
  | .ok outcome => r.Scheduled allows name m m' outcome ∨ outcome = .locked ∨
    ∃ e, r.Barred name m (.error e) ∧ outcome = .failed e.message
  | .error (.error _) => False
  | .error (.fault f) => r.Aborting allows f ∨ r.Barred name m (.fault f)

theorem Extent.along_runScheduled (extent : r.Extent allows name may m) :
    Along (Moment.surroundings allows) Eq (r.Confined name may (r.Writes allows name m (Noted allows)))
      (fun result y => r.Closed allows name m y.store ∧ r.Ticked allows name m y.store result)
      (r.runScheduled name) (.start m) := by
  have fresh : r.Fresh (.start m) := fun _ _ => rfl
  have untouched {y : Moment} (untouched : r.Untouched name m y.store) :
      r.Closed allows name m y.store := closed_of_untouched extent.apart untouched
  refine along_bind_iff.mpr (along_attempt_iff.mpr ((along_acquire_taken fresh).mono (fun _ _ => id)
    (fun _ _ => .of_changesOnly extent.apart) fun result y ended => ?_))
  obtain ⟨changes, ended⟩ := ended
  match result with
  | .error (.error e) => exact ⟨untouched ended.1, .inr (.inr ⟨e, ended.2, rfl⟩)⟩
  | .error (.fault _) => exact ⟨untouched ended.1, .inr ended.2⟩
  | .ok none => exact ⟨untouched ended.1, .inr (.inl rfl)⟩
  | .ok (some lease) =>
  let ends (result : Except Error Outcome) (m' : Memory) : Prop :=
    ∃ outcome, result = .ok outcome ∧ r.Scheduled allows name m m' outcome
  have ignores (result : Except Error Outcome) : r.leases.Ignores (ends result) := by
    rintro m₁ m₂ faults same ⟨outcome, rfl, scheduled⟩
    exact ⟨outcome, rfl, scheduled.ignores extent outcome m₁ m₂ faults same⟩
  have works : Along (r.held allows) Eq (r.Runs name may (r.Writes allows name m (Noted allows)))
      (Worked ends r.Crowded) (r.scheduledUpdate name) (y, lease) := by
    refine (extent.along_scheduledUpdate ended (.of_changesOnly changes)).weaken
      fun result z ended => ?_
    match result with
    | .ok outcome => exact ⟨outcome, rfl, ended⟩
    | .error (.fault _) => exact ended
  refine along_bind_iff.mpr ((along_withLease_confined extent.apart ended.holds ended.owned ended.timely
    ignores works).weaken fun result z returned => ?_)
  match result with
  | .ok _ =>
    obtain ⟨⟨outcome, rfl, scheduled⟩, free⟩ := returned
    exact ⟨.left ⟨free, scheduled.turned⟩, .inl scheduled⟩
  | .error (.fault _) => exact ⟨.aborted (.inl returned.symm), .inl returned.symm⟩

/-- A tick that is aborted says so, and no more. -/
theorem Extent.along_tick (extent : r.Extent allows name may m) :
    Along (Moment.surroundings allows) Eq (r.Confined name may (r.Writes allows name m (Noted allows)))
      (fun result y => r.Closed allows name m y.store ∧
        (result = .ok (.failed "task aborted") ∨ r.Ticked allows name m y.store result))
      (r.runJob name).outcome (.start m) := by
  refine along_orOnFault_iff.mpr ?_
  rintro _ rfl _ y ⟨-, rfl⟩
  refine ⟨.refl _, extent.along_runScheduled.weaken fun result y ended => ?_⟩
  match result with
  | .ok _ | .error (.error _) => exact ⟨ended.1, .inr ended.2⟩
  | .error (.fault _) => exact ⟨ended.1, .inl rfl⟩

/-- How the refresh of a job ends: it is refused, or it has been through a rotation, or a fault has
aborted it. -/
inductive Refreshed (r : Runner) (allows : (r : Request) → r.Answer → Prop) (name : String)
    (m m' : Memory) : Except Failure Outcome → Prop where
  | barred {e : Failure} (barred : r.Barred name m e) : Refreshed r allows name m m' (.error e)
  | unknown {e : Error} (unknown : r.Unknown name m e) :
      Refreshed r allows name m m' (.error (.error e))
  | deleting {record : Job.Record} {e : Error} (holds : r.records.Holds m name record)
      (state : record.state = .deleting) : Refreshed r allows name m m' (.error (.error e))
  | aborted {f : Fault} (aborting : r.Aborting allows f) :
      Refreshed r allows name m m' (.ok (.failed "task aborted"))
  | executed {record : Job.Record} {outcome : Outcome} (holds : r.records.Holds m name record)
      (state : record.state ≠ .deleting)
      (executed : r.Executed allows record (failureStateOf record) m' outcome) :
      Refreshed r allows name m m' (.ok outcome)

private theorem Extent.along_releaseAndFail {x : Moment} {lease : Lease} {e : Error}
    (extent : r.Extent allows name may m) (taken : r.Taken allows name (x, lease))
    (same : x.store.document? r.records.index name = m.document? r.records.index name) :
    Along (Moment.surroundings allows) Eq (r.Confined name may writes)
      (fun result y => result = .error (.error e) ∧ r.Left allows name m y.store)
      (r.releaseAndFail lease e : Program Run) x := by
  have gives : Along (Moment.surroundings allows) _ _ _ _ _ :=
    LeaseService.along_releaseQuietly_held r.leases taken.holds
  rw [taken.owned] at gives
  refine along_bind_iff.mpr (((gives.moved (fun y => .refl y) fun _ _ _ => .trans).mono
    (fun _ _ => id) (fun _ _ => .of_changesOnly extent.apart) fun result y ended => ?_))
  obtain ⟨changes, rfl, gone⟩ := ended
  refine ⟨rfl, gone, .kept ?_⟩
  rw [← same, Memory.document?, Memory.document?, changes.indices _ extent.apart.symm]

theorem Extent.along_refresh (extent : r.Extent allows name may m) :
    Along (Moment.surroundings allows) Eq (r.Confined name may (r.Writes allows name m fun _ _ => False))
      (fun result y => r.Closed allows name m y.store ∧ r.Refreshed allows name m y.store result)
      ((r.refreshJob name).bind Run.outcome) (.start m) := by
  have fresh : r.Fresh (.start m) := fun _ _ => rfl
  refine along_bind_iff.mpr (along_bind_iff.mpr ((along_acquireOrContend_taken fresh).mono
    (fun _ _ => id) (fun _ _ => .of_changesOnly extent.apart) fun result y ended => ?_))
  obtain ⟨changes, ended⟩ := ended
  match result with
  | .error e => exact ⟨closed_of_untouched extent.apart ended.1, .barred ended.2⟩
  | .ok lease =>
  have agrees : r.Agrees m y.store := .of_changesOnly changes
  have document : y.store.document? r.records.index name = m.document? r.records.index name :=
    agrees.document? extent.apart
  refine along_refreshing m (.refl y) document ?_ ?_ (fun record holds state => ?_)
    fun record holds state => ?_
  · intro none
    refine (extent.along_releaseAndFail ended document).weaken fun result z ended => ?_
    obtain ⟨rfl, left⟩ := ended
    exact ⟨.left left, .unknown (.unreadable none)⟩
  · intro missing
    refine (extent.along_releaseAndFail ended document).weaken fun result z ended => ?_
    obtain ⟨rfl, left⟩ := ended
    exact ⟨.left left, .unknown (.absent missing)⟩
  · refine (extent.along_releaseAndFail ended document).weaken fun result z ended => ?_
    obtain ⟨rfl, left⟩ := ended
    exact ⟨.left left, .deleting holds state⟩
  · have begins : r.Begins allows name m record (failureStateOf record) := .asked holds state
    refine (extent.along_startRotation ended begins fun _ => .rotated begins).weaken fun result z ended => ?_
    match result with
    | .ok outcome =>
      rcases ended with ⟨rfl, f, aborting⟩ | ⟨free, executed⟩
      · exact ⟨.aborted (.inl aborting), .aborted aborting⟩
      · exact ⟨.left ⟨free, .executed begins executed⟩, .executed holds state executed⟩

theorem lasting_of_refusal {schedule : Job.Schedule}
    (accepted : schedule.refusal? = .ok none) : ∃ span, schedule.interval = .ok span := by
  unfold Job.Schedule.refusal? at accepted
  cases interval : schedule.interval with
  | error f =>
    rw [interval] at accepted
    cases accepted
  | ok span => exact ⟨span, rfl⟩

theorem checkSchedule_cases (schedule : Job.Schedule) : (∃ e, checkSchedule schedule = .fail e) ∨
    checkSchedule schedule = .done () ∧ ∃ span, schedule.interval = .ok span := by
  unfold checkSchedule
  cases accepted : schedule.refusal? with
  | error f => exact .inl ⟨_, rfl⟩
  | ok refusal =>
    cases refusal with
    | some refusal => exact .inl ⟨_, rfl⟩
    | none => exact .inr ⟨rfl, lasting_of_refusal accepted⟩

/-- The index of records has been made ready for a new job, and nothing else has been done. -/
structure Prepared (r : Runner) (m : Memory) (y : Moment) : Prop where
  written : y.written = fun _ => []
  others : ∀ i, i ≠ r.records.index → y.store.indices.find? i = m.indices.find? i
  made : y.store.indices.find? r.records.index = m.indices.find? r.records.index ∨
    m.indices.find? r.records.index = none ∧
      y.store.indices.find? r.records.index = some (Memory.freshIndex true)

theorem prepared_start : r.Prepared m (.start m) := ⟨rfl, fun _ _ => rfl, .inl rfl⟩

theorem Prepared.records {y : Moment} (prepared : r.Prepared m y) (id : String) :
    y.store.document? r.records.index id = m.document? r.records.index id := by
  unfold Memory.document?
  rcases prepared.made with same | ⟨missing, made⟩
  · rw [same]
  · rw [missing, made]
    rfl

theorem Prepared.fresh {y : Moment} (prepared : r.Prepared m y) : r.Fresh y :=
  fun i _ => congrFun prepared.written i

theorem Prepared.leases {y : Moment} (prepared : r.Prepared m y)
    (apart : r.leases.index ≠ r.records.index) (id : String) :
    y.store.document? r.leases.index id = m.document? r.leases.index id := by
  rw [Memory.document?, Memory.document?, prepared.others _ apart]

private theorem Prepared.closed {y : Moment} (prepared : r.Prepared m y)
    (apart : r.leases.index ≠ r.records.index) : r.Closed allows name m y.store :=
  .aside (prepared.leases apart name) (prepared.records name)

theorem along_createIndexIfAbsent :
    Along (Moment.surroundings allows) Eq (r.Confined name may writes)
      (fun _ y => r.Prepared m y) r.records.createIndexIfAbsent (.start m) := by
  rintro _ rfl a y answered
  obtain ⟨rfl, rfl⟩ := Moment.eq_of_read rfl answered
  refine ⟨.refl _, ?_⟩
  show Along _ _ _ _ (if (m.indices.contains r.records.index : Bool) then _ else _) _
  split
  · exact prepared_start
  rintro _ rfl a z ⟨store, answer, same⟩
  rcases Memory.changed_cases answer with ⟨rfl, made⟩ | ⟨e, rfl, -, rfl⟩
  · have change := Memory.change_answer m (.createIndex r.records.index Job.Records.indexSpec)
    rw [show m.answer _ = _ from answer] at change
    subst same
    refine ⟨.of_createIndex made fun data => data.2 rfl, rfl, fun i other => ?_, .inr ?_⟩
    · exact change.find?_of_ne other
    · obtain ⟨-, missing, rfl⟩ := Memory.createIndex_eq_ok_iff.mp made
      exact ⟨missing, Store.Table.find?_insert_self _ _ _⟩
  · obtain rfl : z = .start store := same.trans (Moment.after_error _ _ _)
    refine ⟨.refl _, ?_⟩
    cases e <;> exact prepared_start

theorem Taken.saved {x y : Moment × Lease} (taken : r.Taken allows name x)
    (apart : r.leases.index ≠ r.records.index) (saved : r.Saved record x y) :
    r.Taken allows name y := by
  have unwritten : r.Unwritten y := fun i => saved.tracks (taken.unwritten i)
  obtain ⟨-, rfl⟩ := saved
  have kept : (x.1.store.write r.records.index record.name record.toJson).indices.find?
      r.leases.index = _ := Memory.find?_write_of_ne _ apart
  exact ⟨taken.holds.congr rfl kept, taken.owned, taken.timely, unwritten⟩

theorem Extent.along_create (extent : r.Extent allows name may m)
    (schedule : Job.Schedule) :
    Along (Moment.surroundings allows) Eq (r.Confined name may (r.Writes allows name m fun _ _ => False))
      (fun _ y => r.Closed allows name m y.store)
      ((r.createJob name schedule).bind Run.outcome) (.start m) := by
  have nothing : r.Closed allows name m m := prepared_start.closed extent.apart
  refine along_bind_iff.mpr ?_
  unfold Runner.createJob
  cases Job.checkName name with
  | error => exact nothing
  | ok =>
  show Along _ _ _ _ ((checkSchedule schedule).bind _) _
  rcases checkSchedule_cases schedule with ⟨e, checked⟩ | ⟨checked, lasting⟩ <;> rw [checked]
  · exact nothing
  rintro _ rfl (found : Except Error (Option Feed.Metadata)) y ⟨-, rfl⟩
  refine ⟨.refl _, ?_⟩
  match found with
  | .error _ | .ok none => exact nothing
  | .ok (some feed) =>
  show Along _ _ _ _ (r.records.createIndexIfAbsent.bind _) _
  refine along_bind_iff.mpr (along_createIndexIfAbsent.weaken
    fun result x prepared => ?_)
  match result with
  | .error _ => exact prepared.closed extent.apart
  | .ok () =>
  refine along_bind_iff.mpr ((along_acquireOrContend_taken prepared.fresh).mono (fun _ _ => id)
    (fun _ _ => .of_changesOnly extent.apart) fun result y ended => ?_)
  obtain ⟨changes, ended⟩ := ended
  have record : y.store.document? r.records.index name = m.document? r.records.index name :=
    ((Agrees.of_changesOnly changes).document? extent.apart).trans (prepared.records name)
  match result with
  | .error e => exact .aside (ended.1.lease.trans (prepared.leases extent.apart name)) record
  | .ok lease =>
  rintro _ rfl (reading : Reading) z ⟨-, rfl⟩
  refine ⟨.refl _, ?_⟩
  let now := reading.instant
  show Along _ _ _ _ ((r.records.put (.create name schedule now)).attempt.bind _) z
  refine along_bind_iff.mpr (along_attempt_iff.mpr (along_put lease .refl
    (fun later w allowed absent saved => ?_) fun e => ?_))
  · have absent := record.symm.trans absent
    have begins : r.Begins allows name m ((Job.Record.create name schedule now).writtenAt later)
        .createFailed := .created now later absent lasting allowed
    refine ⟨.of_saved saved rfl (.begun absent begins), ?_⟩
    refine (extent.along_startRotation (ended.saved extent.apart saved) begins
      fun _ => .rotated begins).weaken fun result v rotated => ?_
    match result with
    | .ok outcome =>
      rcases rotated with ⟨-, f, aborting⟩ | ⟨free, executed⟩
      · exact .aborted (.inl aborting)
      · exact .left ⟨free, .executed begins executed⟩
  · refine (extent.along_releaseAndFail ended record).weaken fun result w failed => ?_
    obtain ⟨rfl, left⟩ := failed
    exact .left left

/-- A record is given a schedule that has an interval, unless its own has none; it keeps its own if
both have the same interval. -/
theorem reschedule_cases {schedule : Job.Schedule} (now : Instant)
    (chosen : ∃ span, schedule.interval = .ok span) :
    (∃ other changed,
      record.reschedule schedule now = .ok ({ record with schedule := other }, changed) ∧
        (∃ span, other.interval = .ok span) ∧
          (other = record.schedule ∨ record.schedule.sameInterval other = .ok false)) ∨
    ∃ f, record.reschedule schedule now = .error f ∧ record.schedule.interval = .error f := by
  obtain ⟨span', interval'⟩ := chosen
  unfold Job.Record.reschedule
  cases interval : record.schedule.interval with
  | error f =>
    have endless : record.schedule.sameInterval schedule = .error f := by
      unfold Job.Schedule.sameInterval
      rw [interval]
      rfl
    rw [endless]
    exact .inr ⟨f, rfl, rfl⟩
  | ok span =>
    have same : record.schedule.sameInterval schedule =
        .ok (decide (span.millis = span'.millis)) := by
      unfold Job.Schedule.sameInterval
      rw [interval, interval']
      rfl
    rw [same]
    by_cases equal : span.millis = span'.millis
    · exact .inl ⟨record.schedule, false, by simp [equal]; rfl, ⟨span, interval⟩, .inl rfl⟩
    · have other : record.schedule.sameInterval { schedule with startTime := now } = .ok false :=
        Eq.trans same (by simp [equal])
      exact .inl ⟨{ schedule with startTime := now }, true, by simp [equal]; rfl, ⟨span', interval'⟩,
        .inr other⟩

private theorem along_rescheduled {own : Moment × Lease → Moment × Lease → Prop} {x : Moment × Lease}
    {choice : Option Job.Schedule} (holds : Moment × Lease → Prop)
    (kept : ∀ y z, (r.held allows).renewals y z → holds y → holds z) (start : holds x)
    (still : ∀ y, own y y)
    (chosen : ∀ schedule, choice = some schedule → ∃ span, schedule.interval = .ok span) :
    Along (r.held allows) (r.held allows).renewals own
      (fun result y => match result with
        | .ok changed => holds y ∧ ∃ schedule : Job.Schedule,
          ((∃ span, record.schedule.interval = .ok span) → ∃ span, schedule.interval = .ok span) ∧
          (schedule = record.schedule ∨ record.schedule.sameInterval schedule = .ok false) ∧
            changed = { record with schedule }
        | .error (.error _) => False
        | .error (.fault f) => record.schedule.interval = .error f) (rescheduled record choice) x := by
  cases choice with
  | none => exact ⟨start, record.schedule, id, .inl rfl, rfl⟩
  | some schedule =>
    refine along_ask_while holds kept start still nofun nofun fun (now : Reading) y _ there => ?_
    show Along _ _ _ _ ((ofTime (record.reschedule schedule now.instant)).bind _) y
    rcases reschedule_cases now.instant (chosen schedule rfl) with
      ⟨other, changed, same, lasting, other'⟩ | ⟨f, same, endless⟩ <;> rw [same]
    · exact ⟨there, other, fun _ => lasting, other', rfl⟩
    · exact endless

private theorem along_withTicks {own : Moment × Lease → Moment × Lease → Prop} {x : Moment × Lease}
    (choice : Option Bool) (holds : Moment × Lease → Prop)
    (kept : ∀ y z, (r.held allows).renewals y z → holds y → holds z) (start : holds x)
    (still : ∀ y, own y y) :
    Along (r.held allows) (r.held allows).renewals own
      (Settles (fun changed y => holds y ∧ Switched record changed) fun _ _ => False)
      (withTicks record choice) x := by
  match choice with
  | none => exact ⟨start, .left⟩
  | some false => exact ⟨start, .off⟩
  | some true =>
    exact along_ask_while holds kept start still nofun nofun
      fun (now : Reading) y _ there => ⟨there, .on now.instant⟩

theorem Switched.parts {changed : Job.Record} (switched : Switched record changed) :
    changed.name = record.name ∧ changed.schedule = record.schedule ∧
      changed.indices = record.indices := by
  cases switched with
  | left | off => exact ⟨rfl, rfl, rfl⟩
  | on =>
    unfold Job.Record.enable
    split <;> exact ⟨rfl, rfl, rfl⟩

/-- How an update ends: the record is what the update has made of it, or it is as it was. -/
inductive Revised (r : Runner) (allows : (r : Request) → r.Answer → Prop) (name : String)
    (m m' : Memory) : Except Error Job.Record → Prop where
  | changed {record record' : Job.Record} (holds : r.records.Holds m name record)
      (updated : Updated allows record record') (stored : r.records.Holds m' name record') :
      Revised r allows name m m' (.ok record')
  | refused {e : Error} (same : m'.document? r.records.index name = m.document? r.records.index name) :
      Revised r allows name m m' (.error e)

theorem Revised.turned {result : Except Error Job.Record} (revised : r.Revised allows name m m' result) :
    r.Turned allows name m m' := by
  cases revised with
  | changed holds updated stored => exact .rewritten holds (.updated updated) stored
  | refused same => exact .kept same

/-- How an update has ended is not changed by what becomes of its lease. -/
private theorem Revised.ignores (apart : r.leases.index ≠ r.records.index)
    (result : Except Error Job.Record) :
    r.leases.Ignores fun m' => r.Revised allows name m m' result := by
  intro m₁ m₂ _ same revised
  have records := same r.records.index apart.symm
  cases revised with
  | changed holds updated stored => exact .changed holds updated (stored.congr records)
  | refused unchanged => exact .refused (by rw [Memory.document?, records]; exact unchanged)

/-- An update writes what it may make of the record, or it fails before it has written anything. -/
theorem along_updateHeld_while {own : Moment × Lease → Moment × Lease → Prop} {x : Moment × Lease}
    {ends : Except Failure Job.Record → Moment × Lease → Prop} {update : JobUpdate}
    (holds : Moment × Lease → Prop) (apart : r.leases.index ≠ r.records.index)
    (agrees : ∀ y, holds y → r.Agrees m y.1.store)
    (kept : ∀ y z, (r.held allows).renewals y z → holds y → holds z) (start : holds x)
    (still : ∀ y, own y y)
    (chosen : ∀ schedule, update.schedule = some schedule → ∃ span, schedule.interval = .ok span)
    (refused : ∀ e y, holds y → ends (.error (.error e)) y)
    (endless : ∀ record f y, r.records.Holds m name record → record.schedule.interval = .error f →
      ends (.error (.fault f)) y)
    (updates : ∀ record record' y z, holds y → r.records.Holds m name record →
      Updated allows record record' → record'.name = record.name → r.Saved record' y z →
        own y z ∧ ends (.ok record') z) :
    Along (r.held allows) (r.held allows).renewals own ends (r.updateHeld name update) x := by
  refine (along_requireRecord_while holds apart agrees kept start still).next
    (fun e y missing => refused e y missing.1) fun record y ⟨there, stored⟩ => ?_
  show Along _ _ _ _ (if record.state ≠ .available then _ else _) y
  split
  · exact refused _ y there
  rename_i state
  have state := Decidable.not_not.mp state
  refine along_ask_while holds kept there still nofun nofun
    fun (found : Except Error (Option Feed.Metadata)) y _ there => ?_
  match found with
  | .error _ | .ok none => exact refused _ y there
  | .ok (some feed) =>
  have downloads : Along (r.held allows) (r.held allows).renewals own
      (Settles (fun reader z => r.Reads allows feed reader ∧ holds z)
        fun e z => r.Unread allows feed e ∧ holds z)
      (Feed.download r.config.fetch.userAgent feed) y := by
    refine along_download kept (fun request y a z answered there => ?_) there
    obtain ⟨allowed, rfl⟩ := held_of_other answered nofun nofun
    exact ⟨still _, there, allowed⟩
  refine downloads.next (fun e y unread => refused e y unread.2) fun reader y ⟨_, there⟩ => ?_
  cases Feed.checkHeader record.feedFields reader.fields with
  | error => exact refused _ y there
  | ok =>
  show Along _ _ _ _ ((rescheduled record update.schedule).bind _) y
  refine along_bind_iff.mpr ((along_rescheduled holds kept there still chosen).weaken
    fun result y ended => ?_)
  match result with
  | .error (.fault f) => exact endless record f y stored ended
  | .ok _ =>
  obtain ⟨there, schedule, lasting, rescheduled, rfl⟩ := ended
  refine (along_withTicks update.updateEnabled holds kept there still).next (fun _ _ => False.elim)
    fun changed y ⟨there, switched⟩ => ?_
  refine along_bind_iff.mpr (along_save_while holds kept there still
    (fun later y z there allowed saved => ?_) fun _ y there _ => refused _ y there)
  exact updates record _ y z there stored (.mk later state lasting rescheduled switched allowed)
    switched.parts.1 saved

private theorem Extent.along_updateHeld {x : Moment × Lease} {update : JobUpdate}
    (extent : r.Extent allows name may m)
    (chosen : ∀ schedule, update.schedule = some schedule → ∃ span, schedule.interval = .ok span)
    (agrees : r.Agrees m x.1.store) :
    Along (r.held allows) (r.held allows).renewals
      (r.Runs name may (r.Writes allows name m (Updated allows)))
      (Worked (fun result m' => r.Revised allows name m m' result) fun f =>
        ∃ record, r.records.Holds m name record ∧ record.schedule.interval = .error f)
      (r.updateHeld name update) x := by
  refine along_updateHeld_while (fun y => r.Agrees m y.1.store) extent.apart (fun _ => id)
    (fun _ _ renewals => (Agrees.ignores m).renewals renewals) agrees .refl chosen
    (fun _ _ agrees => .refused (agrees.document? extent.apart))
    (fun record _ _ holds endless => ⟨record, holds, endless⟩) ?_
  intro record record' y z _ holds updated same saved
  have named := same.trans (extent.named record holds)
  have there := saved.holds
  exact ⟨.of_saved extent.apart saved named (.rewritten holds updated),
    .changed holds updated (named ▸ there)⟩

private theorem Extent.closed {result : Except Failure α} {faulty : Fault → Prop}
    (extent : r.Extent allows name may m)
    (operated : r.Operated allows name m (fun _ => r.Turned allows name m) faulty result m')
    (endless : ∀ f, faulty f →
      ∃ record, r.records.Holds m name record ∧ record.schedule.interval = .error f) :
    r.Closed allows name m m' := by
  match result with
  | .ok _ => exact .left ⟨operated.2, operated.1⟩
  | .error (.error _) =>
    rcases operated with done | untouched
    · exact .left ⟨done.2, done.1⟩
    · exact closed_of_untouched extent.apart untouched.1
  | .error (.fault f) =>
    rcases operated with fault | untimely | untouched
    · exact .aborted (.inr (endless f fault))
    · exact .aborted (.inl (.inl untimely))
    · exact closed_of_untouched extent.apart untouched.1

/-- What an update leaves if it ends with a value or with an error. -/
def Renewed (r : Runner) (allows : (r : Request) → r.Answer → Prop) (name : String) (m m' : Memory) :
    Except Failure Job.Record → Prop
  | .ok record => r.Revised allows name m m' (.ok record)
  | .error (.error e) => r.Revised allows name m m' (.error e)
  | .error (.fault _) => True

theorem Extent.along_update (extent : r.Extent allows name may m) (update : JobUpdate) :
    Along (Moment.surroundings allows) Eq (r.Confined name may (r.Writes allows name m (Updated allows)))
      (fun result y => r.Closed allows name m y.store ∧ r.Renewed allows name m y.store result)
      (r.updateJob name update) (.start m) := by
  have works (chosen : ∀ schedule, update.schedule = some schedule →
      ∃ span, schedule.interval = .ok span) :
      Along (Moment.surroundings allows) Eq
        (r.Confined name may (r.Writes allows name m (Updated allows)))
        (fun result y => r.Closed allows name m y.store ∧ r.Renewed allows name m y.store result)
        (r.underLease name (r.updateHeld name update)) (.start m) := by
    refine (along_underLease extent.apart (fun _ _ => rfl) (Revised.ignores extent.apart)
      fun y _ changes => extent.along_updateHeld chosen (.of_changesOnly changes)).weaken
        fun result z operated => ⟨?_, ?_⟩
    · exact extent.closed (operated.mono fun _ _ => Revised.turned) fun _ => id
    · match result with
      | .ok _ => exact operated.1
      | .error (.fault _) => trivial
      | .error (.error _) =>
        rcases operated with ⟨revised, -⟩ | ⟨untouched, -⟩
        · exact revised
        · exact .refused (untouched.record extent.apart)
  unfold Runner.updateJob
  cases given : update.schedule with
  | none =>
    exact works fun schedule same => by cases given.symm.trans same
  | some schedule =>
  show Along _ _ _ _ ((checkSchedule schedule).bind _) _
  rcases checkSchedule_cases schedule with ⟨e, checked⟩ | ⟨checked, lasting⟩ <;> rw [checked]
  · refine ⟨prepared_start.closed extent.apart, ?_⟩
    cases e with
    | error => exact .refused rfl
    | fault => trivial
  · refine works fun other same => ?_
    obtain rfl := Option.some.inj (given.symm.trans same)
    exact lasting

private theorem Deleted.turned {result : Except Error Unit}
    (deleted : r.Deleted allows name m m' result) (apart : r.leases.index ≠ r.records.index) :
    r.Turned allows name m m' := by
  cases deleted with
  | unknown _ same | unmarked _ same => exact .kept (same.document? apart)
  | undone holds _ _ _ _ restored => exact .rewritten holds (.restored _) restored
  | done _ _ _ _ gone => exact .removed gone

/-- An operation on a job is confined to the job. -/
theorem Footprint.along_operates {p : Program α} (footprint : r.Footprint allows name may m)
    (operates : r.Operates name p) :
    Along (Moment.surroundings allows) Eq (r.Confined name may (r.MayWrite allows name m))
      (fun _ y => r.Closed allows name m y.store) p (.start m) := by
  have extent := footprint.extent
  have writes {rewrites : Job.Record → Job.Record → Prop}
      (rewritten : ∀ record record', rewrites record record' →
        Noted allows record record' ∨ Updated allows record record') (x y : Moment)
      (confined : r.Confined name may (r.Writes allows name m rewrites) x y) :
      r.Confined name may (r.MayWrite allows name m) x y :=
    confined.mono (fun _ => id) fun _ written => .inl (written.mono rewritten)
  cases operates with
  | create schedule =>
    exact (extent.along_create schedule).mono (fun _ _ => id) (writes fun _ _ => False.elim)
      fun _ _ => id
  | refresh =>
    exact extent.along_refresh.mono (fun _ _ => id) (writes fun _ _ => False.elim)
      fun _ _ => And.left
  | scheduled =>
    exact extent.along_runScheduled.mono (fun _ _ => id) (writes fun _ _ => .inl)
      fun _ _ => And.left
  | tick =>
    exact extent.along_tick.mono (fun _ _ => id) (writes fun _ _ => .inl) fun _ _ => And.left
  | update update =>
    exact (extent.along_update update).mono (fun _ _ => id) (writes fun _ _ => .inr)
      fun _ _ => And.left
  | delete =>
    refine (along_deleteJob footprint).mono (fun _ _ => id)
      (fun _ _ confined => confined.mono (fun _ => id) fun _ => .inr) fun result y operated => ?_
    exact extent.closed (operated.mono fun _ _ deleted => deleted.turned extent.apart)
      fun _ => False.elim

end IndicatorFeeds.Runner

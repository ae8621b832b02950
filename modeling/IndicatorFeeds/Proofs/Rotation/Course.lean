import IndicatorFeeds.Proofs.Lease.Taken
import IndicatorFeeds.Proofs.Rotation.Phases

namespace IndicatorFeeds

open Store (Memory MemoryIndex Call)
open Program

theorem Config.EngineConfig.apart_of_validate {c : EngineConfig} (valid : c.validate = .ok ()) :
    c.store.jobs ≠ c.store.leases := by
  intro same
  unfold validate at valid
  cases refusal : c.refusal? with
  | some => simp [refusal] at valid
  | none =>
    unfold refusal? at refusal
    simp only [same, if_true] at refusal
    repeat' split at refusal
    all_goals cases refusal

namespace Runner

variable {r : Runner} {allows : (r : Request) → r.Answer → Prop}
  {own : Moment → Moment → Prop} {name : String} {record : Job.Record} {x y : Moment}
  {lease : Lease}

theorem eq_of_create {config : Config.EngineConfig} {service : Nat} {r : Runner}
    (created : Runner.create config service = .ok r) :
    config.validate = .ok () ∧ r.config = config ∧ r.leases.index = config.store.leases ∧
      r.records.index = config.store.jobs := by
  unfold Runner.create at created
  by_cases nameless : !Http.isUserAgent config.fetch.userAgent
  · rw [if_pos nameless] at created
    cases created
  rw [if_neg nameless] at created
  cases valid : config.validate with
  | error e =>
    rw [valid] at created
    cases created
  | ok =>
  cases leases : LeaseService.create service config.store.leases config.lease.renewAfterSecs with
  | error f =>
    rw [valid, leases] at created
    cases created
  | ok s =>
  rw [valid, leases] at created
  change (if maxRuns < config.runner.maxConcurrentRuns.toNat then Except.error _
    else Except.ok ⟨config, s, ⟨config.store.jobs⟩⟩) = Except.ok r at created
  by_cases tooMany : maxRuns < config.runner.maxConcurrentRuns.toNat
  · rw [if_pos tooMany] at created
    cases created
  rw [if_neg tooMany] at created
  obtain rfl := Except.ok.inj created
  refine ⟨rfl, rfl, ?_, rfl⟩
  unfold LeaseService.create at leases
  cases span : seconds config.lease.renewAfterSecs with
  | error f =>
    rw [span] at leases
    cases leases
  | ok span' =>
    rw [span] at leases
    obtain rfl := Except.ok.inj leases
    rfl

theorem apart_of_create {config : Config.EngineConfig} {service : Nat} {r : Runner}
    (created : Runner.create config service = .ok r) : r.leases.index ≠ r.records.index := by
  obtain ⟨valid, -, leases, records⟩ := eq_of_create created
  rw [leases, records]
  exact (Config.EngineConfig.apart_of_validate valid).symm

/-- With the lease of its job a tick finds no record, or notes that it has come, or rotates the record. -/
theorem along_scheduled {own : Moment × Lease → Moment × Lease → Prop}
    {ends : Except Failure Outcome → Moment × Lease → Prop} {x : Moment × Lease} (m : Memory)
    (still : ∀ x, own x x)
    (same : x.1.store.document? r.records.index name = m.document? r.records.index name)
    (unreadable : (∀ record, ¬r.records.Holds m name record) →
      ends (.ok (.failed Error.serialization.message)) x)
    (missing : m.document? r.records.index name = none → ends (.ok .missing) x)
    (stopped : ∀ record now, r.records.Holds m name record → record.state ≠ .available →
      Tells allows now → Along (r.held allows) Eq own ends
        ((r.saveQuietly (record.disable.recordFailure now)).bind fun _ =>
          done (.invalid record.state)) x)
    (skipped : ∀ record now, r.records.Holds m name record → record.state = .available →
      Tells allows now → Along (r.held allows) Eq own ends
        ((r.saveQuietly (record.recordSkip now)).bind fun _ => done .skipped) x)
    (rotates : ∀ record, r.records.Holds m name record → record.state = .available →
      record.updateEnabled = true →
        Along (r.held allows) Eq own ends (r.executeRotation record .refreshFailed) x) :
    Along (r.held allows) Eq own ends (r.scheduledUpdate name) x := by
  refine along_bind_iff.mpr (along_attempt_iff.mpr
    (along_get m (still x) ?_ unreadable missing fun record holds => ?_))
  · intro a y answered
    obtain ⟨rfl, rfl⟩ := eq_of_held_read rfl answered
    exact ⟨rfl, y.1.store, rfl, same⟩
  show Along _ _ _ _ (if record.state ≠ .available then _ else
    if !record.updateEnabled then _ else _) x
  by_cases state : record.state = .available
  · rw [if_neg (Decidable.not_not.mpr state)]
    cases enabled : record.updateEnabled with
    | true => exact rotates record holds state enabled
    | false => exact along_now still fun now => skipped record now holds state
  · rw [if_pos state]
    exact along_now still fun now => stopped record now holds state

/-- What a refresh does with the lease of its job. -/
def refreshing (r : Runner) (name : String) (lease : Lease) : Program Run :=
  (r.records.get name).attempt.bind fun found => match found with
    | .error e => r.releaseAndFail lease e
    | .ok none => r.releaseAndFail lease (.notFound s!"job {name}")
    | .ok (some record) =>
      if record.state = .deleting then
        r.releaseAndFail lease (.validation s!"job {name} is being deleted")
      else
        done (r.startRotation record lease
          (if record.currentIndex.isSome then .refreshFailed else .createFailed))

theorem refreshJob_eq (r : Runner) (name : String) :
    r.refreshJob name = (r.acquireOrContend name).bind (r.refreshing name) := rfl

/-- With the lease of its job a refresh gives up, or it starts a rotation of the record. -/
theorem along_refreshing {ends : Except Failure Run → Moment → Prop} (m : Memory) (still : own x x)
    (same : x.store.document? r.records.index name = m.document? r.records.index name)
    (unreadable : (∀ record, ¬r.records.Holds m name record) →
      Along (Moment.surroundings allows) Eq own ends (r.releaseAndFail lease .serialization) x)
    (missing : m.document? r.records.index name = none →
      Along (Moment.surroundings allows) Eq own ends
        (r.releaseAndFail lease (.notFound s!"job {name}")) x)
    (deleting : ∀ record, r.records.Holds m name record → record.state = .deleting →
      Along (Moment.surroundings allows) Eq own ends
        (r.releaseAndFail lease (.validation s!"job {name} is being deleted")) x)
    (starts : ∀ record, r.records.Holds m name record → record.state ≠ .deleting →
      ends (.ok (r.startRotation record lease
        (if record.currentIndex.isSome then .refreshFailed else .createFailed))) x) :
    Along (Moment.surroundings allows) Eq own ends (r.refreshing name lease) x := by
  refine along_bind_iff.mpr (along_attempt_iff.mpr
    (along_get m still ?_ unreadable missing fun record holds => ?_))
  · intro a z answered
    obtain ⟨rfl, rfl⟩ := Moment.eq_of_read rfl answered
    exact ⟨rfl, z.store, rfl, same⟩
  · show Along _ _ _ _ (if record.state = .deleting then _ else _) x
    split
    · rename_i state
      exact deleting record holds state
    · rename_i state
      exact starts record holds state

/-- The runs of a job that is there already, from their start to their end. -/
inductive Refreshes (r : Runner) (name : String) : Program Outcome → Prop where
  | tick : Refreshes r name (r.runJob name).outcome
  | onDemand : Refreshes r name ((r.refreshJob name).bind Run.outcome)

/-- Nothing has been written to an index of data yet. -/
def Fresh (r : Runner) (x : Moment) : Prop := ∀ i, r.IsData i → x.written i = []

private theorem Fresh.along {p : Program α} {seqNo : Nat}
    (asks : p.Asks fun request => ∀ i, r.IsData i → request.Spares i) (fresh : r.Fresh x)
    (issued : seqNo ≤ x.store.lastSeqNo) :
    Along (Moment.surroundings allows) Eq (fun _ _ => True)
      (fun _ y => r.Fresh y ∧ seqNo ≤ y.store.lastSeqNo) p x := by
  have keeps : ∀ request x a y, (∀ i, r.IsData i → request.Spares i) →
      r.Fresh x ∧ seqNo ≤ x.store.lastSeqNo → Moment.surroundings allows request x a y →
      r.Fresh y ∧ seqNo ≤ y.store.lastSeqNo := by
    intro request x a y spares holds answered
    refine ⟨fun i data => ?_, Nat.le_trans holds.2 (Moment.grows answered)⟩
    have there : x.At i (x.store.indices.find? i) [] := ⟨rfl, holds.1 i data⟩
    exact (there.step (spares i data) answered).written
  exact asks.ending _ keeps ⟨fresh, issued⟩

/-- What holds along a run of a job whose moves are some: until its record has been loaded, along
its rotation, and when it has ended with a generation. -/
structure Course (r : Runner) (allows : (r : Request) → r.Answer → Prop)
    (own : Moment → Moment → Prop) (name : String) extends r.Moves own where
  start : Moment → Prop
  /-- What is done to the index of leases, and what only looks, makes no difference. -/
  aside : ∀ request x a y, r.leases.Spares request → Moment.surroundings allows request x a y →
    own x y ∧ (start x → start y)
  renewed : ∀ x y, r.leases.Renewed x y → start x.1 → start y.1
  known : Job.Record → Prop
  loads : ∀ record x, start x → r.records.Holds x.store name record → known record
  phases : ∀ record, known record → r.Phases allows own record
  begins : ∀ record (k : known record) x, start x.1 → (phases record k).before x
  finished : String → Moment → Prop
  releases : ∀ record (k : known record) feed x, allows (.feedFor record.name) (.ok (some feed)) →
    (phases record k).after feed x →
    Along (Moment.surroundings allows) Eq own (fun _ y => finished (r.nextIndex record feed) y)
      (r.leases.releaseQuietly x.2) x.1

namespace Course

variable {course : r.Course allows own name}

/-- A run ends with a generation, or with nothing to say. -/
def Ended (course : r.Course allows own name) : Except Failure Outcome → Moment → Prop
  | .ok (.refreshed index), y => course.finished index y
  | _, _ => True

theorem along_aside {p : Program α} (asks : p.Asks r.leases.Spares) (start : course.start x) :
    Along (Moment.surroundings allows) Eq own (fun _ y => course.start y) p x := by
  have keeps : ∀ request x a y, r.leases.Spares request → course.start x →
      Moment.surroundings allows request x a y → course.start y :=
    fun request x a y spares start answered => (course.aside request x a y spares answered).2 start
  have moves : Along (Moment.surroundings allows) Eq own (fun _ _ => True) p x :=
    asks.moves (fun request x a y spares answered =>
      (course.aside request x a y spares answered).1) x
  exact (moves.and (asks.ending course.start keeps start)).mono (fun _ _ => id)
    (fun _ _ => And.left) fun _ _ => And.right

theorem along_acquire (start : course.start x) (fresh : r.Fresh x) :
    Along (Moment.surroundings allows) Eq own
      (fun result y => course.start y ∧ match result with
        | .ok (some lease) => r.Unwritten (y, lease)
        | _ => True) (r.acquire name) x := by
  have asks := asks_acquire r.leases name r.config.lease.durationSecs
  have starts := course.along_aside asks start
  have spares : (r.acquire name).Asks fun request => ∀ i, r.IsData i → request.Spares i :=
    asks.mono fun _ spares i data => spares i data.1
  have takes : Along (Moment.surroundings allows) Eq _ _ (r.acquire name) x :=
    LeaseService.along_acquire_took r.leases name r.config.lease.durationSecs x
  refine (starts.and ((fresh.along spares (Nat.zero_le _)).and takes)).mono
    (fun _ _ => id) (fun _ _ => And.left) fun result y ended => ⟨ended.1, ?_⟩
  match result with
  | .ok (some lease) =>
    obtain ⟨-, ⟨fresh, -⟩, -, -, -, -, issued⟩ := ended
    exact fun i => ⟨fresh i, issued⟩
  | .ok none | .error _ => trivial

/-- The work of a run under its lease ends with a generation, or with nothing to say. -/
def Served (course : r.Course allows own name) : Except Failure Outcome → Moment × Lease → Prop
  | .ok (.refreshed index), y => ∃ record, ∃ k : course.known record, ∃ feed,
    allows (.feedFor record.name) (.ok (some feed)) ∧ index = r.nextIndex record feed ∧
      (course.phases record k).after feed y
  | _, _ => True

private theorem along_release (course : r.Course allows own name) (x : Moment × Lease) :
    Along (Moment.surroundings allows) Eq own (fun _ _ => True)
      (r.leases.releaseQuietly x.2) x.1 :=
  (asks_releaseQuietly r.leases x.2).moves (fun request x a y spares answered =>
    (course.aside request x a y spares answered).1) x.1

/-- A run that gives its lease back keeps what it has ended with. -/
theorem along_withLease {work : Program Outcome}
    (along : Along (r.held allows) Eq (fun x y => own x.1 y.1) course.Served work (x, lease)) :
    Along (Moment.surroundings allows) Eq own course.Ended
      ((r.leases.withLease lease work).bind fun result => done (settled result)) x := by
  refine along_bind_iff.mpr (IndicatorFeeds.along_withLease r.leases course.still
    (fun x lease y => course.renews (x, lease) y) (fun f x => ?_)
    (along.weaken fun result y ended => ?_))
  · exact trivial
  · match result with
    | .ok (.refreshed index) =>
      obtain ⟨record, k, feed, allowed, rfl, after⟩ := ended
      exact course.releases record k feed y allowed after
    | .ok .skipped | .ok .locked | .ok (.invalid _) | .ok .missing | .ok (.failed _) =>
      exact course.along_release y
    | .error (.error e) => exact course.along_release y
    | .error (.fault _) => trivial

private theorem along_saveStart {marked : Job.Record} {outcome : Outcome}
    (quiet : ∀ index, outcome ≠ .refreshed index) (k : course.known record)
    (named : marked.name = record.name) (listed : marked.indices = record.indices)
    (start : course.start x) :
    Along (r.held allows) Eq (fun x y => own x.1 y.1) course.Served
      ((r.saveQuietly marked).bind fun _ => done outcome) (x, lease) := by
  have nothing (y : Moment × Lease) : course.Served (.ok outcome) y := by
    cases outcome with
    | refreshed index => exact absurd rfl (quiet index)
    | _ => trivial
  refine along_bind_iff.mpr (along_saveQuietly (fun x => course.still x.1)
    (fun now y _ saved => ?_) fun _ => nothing _)
  have current : (marked.writtenAt now).currentIndex = record.currentIndex :=
    congrArg List.getLast? listed
  have moved := (course.phases record k).saves (marked.writtenAt now) (x, lease) y named current
    (course.begins record k (x, lease) start) saved
  exact ⟨moved.1, nothing y⟩

/-- A rotation under the lease is one of the phases. -/
theorem along_executeRotation (failureState : Job.State) (k : course.known record)
    (unwritten : r.Unwritten (x, lease)) (start : course.start x) :
    Along (r.held allows) Eq (fun x y => own x.1 y.1) course.Served
      (r.executeRotation record failureState) (x, lease) := by
  have begins := course.begins record k (x, lease) start
  refine ((course.phases record k).along_executeRotation failureState unwritten begins).weaken
    fun result y ended => ?_
  match result with
  | .ok (.refreshed index) =>
    obtain ⟨feed, allowed, same, after⟩ := ended
    exact ⟨record, k, feed, allowed, same, after⟩
  | .ok .skipped | .ok .locked | .ok (.invalid _) | .ok .missing | .ok (.failed _) => trivial
  | .error _ => trivial

private theorem along_scheduledUpdate (unwritten : r.Unwritten (x, lease)) (start : course.start x) :
    Along (r.held allows) Eq (fun x y => own x.1 y.1) course.Served (r.scheduledUpdate name)
      (x, lease) := by
  refine along_scheduled x.store (fun x => course.still x.1) rfl (fun _ => trivial) (fun _ => trivial)
    ?_ ?_ ?_
  · exact fun record now holds _ _ =>
      along_saveStart nofun (course.loads record x start holds) rfl rfl start
  · exact fun record now holds _ _ =>
      along_saveStart nofun (course.loads record x start holds) rfl rfl start
  · exact fun record holds _ _ =>
      along_executeRotation .refreshFailed (course.loads record x start holds) unwritten start

private theorem along_runScheduled (start : course.start x) (fresh : r.Fresh x) :
    Along (Moment.surroundings allows) Eq own course.Ended (r.runScheduled name) x := by
  refine along_bind_iff.mpr (along_attempt_iff.mpr ((along_acquire start fresh).weaken
    fun result y ended => ?_))
  obtain ⟨start, ready⟩ := ended
  match result with
  | .error (.error _) | .error (.fault _) | .ok none => trivial
  | .ok (some lease) => exact along_withLease (along_scheduledUpdate ready start)

private theorem along_outcome {run : Run}
    (along : Along (Moment.surroundings allows) Eq own course.Ended run.work x) :
    Along (Moment.surroundings allows) Eq own course.Ended run.outcome x := by
  refine along_orOnFault_iff.mpr (along.weaken fun result y ended => ?_)
  match result with
  | .ok _ => exact ended
  | .error (.error _) | .error (.fault _) => trivial

private theorem spares_turn : r.leases.Spares .turn := fun _ _ => trivial

theorem along_tick (course : r.Course allows own name) (start : course.start x) (fresh : r.Fresh x) :
    Along (Moment.surroundings allows) Eq own course.Ended (r.runJob name).outcome x := by
  refine along_outcome ?_
  intro _ same _ y answered
  subst same
  obtain ⟨moved, kept⟩ := course.aside .turn x () y spares_turn answered
  obtain ⟨-, rfl⟩ := answered
  exact ⟨moved, along_runScheduled start fresh⟩

theorem along_startRotation (failureState : Job.State) (k : course.known record)
    (unwritten : r.Unwritten (x, lease)) (start : course.start x) :
    Along (Moment.surroundings allows) Eq own course.Ended
      (r.startRotation record lease failureState).outcome x := by
  refine along_outcome (along_withLease (along_bind_iff.mpr ?_))
  refine Along.during (fun x y => course.renews x y) ?_ (fun x => course.still x.1) ?_
  · intro x a y answered
    exact (held_of_other answered nofun nofun).2
  intro y renewals _ z answered
  obtain ⟨-, rfl⟩ := held_of_other answered nofun nofun
  have begun : course.start z.1 := kept_renewals (fun x => course.start x.1) course.renewed
    renewals start
  exact ⟨course.still _, along_executeRotation failureState k
    (fun i => (unwritten i).renewals renewals) begun⟩

private theorem along_acquireOrContend (start : course.start x) (fresh : r.Fresh x) :
    Along (Moment.surroundings allows) Eq own
      (fun result y => match result with
        | .ok lease => course.start y ∧ r.Unwritten (y, lease)
        | .error _ => True) (r.acquireOrContend name) x := by
  refine along_bind_iff.mpr ((along_acquire start fresh).weaken fun result y ended => ?_)
  match result with
  | .ok (some lease) => exact ended
  | .ok none | .error _ => trivial

private theorem along_releaseAndFail (course : r.Course allows own name) (lease : Lease) (e : Error)
    {ends : Except Failure Run → Moment → Prop} (fails : ∀ e y, ends (.error e) y) :
    Along (Moment.surroundings allows) Eq own ends (r.releaseAndFail lease e) x := by
  refine along_bind_iff.mpr ((course.along_release (x, lease)).weaken fun result y _ => ?_)
  match result with
  | .ok () | .error _ => exact fails _ y

theorem along_refresh (course : r.Course allows own name) (start : course.start x)
    (fresh : r.Fresh x) :
    Along (Moment.surroundings allows) Eq own course.Ended
      ((r.refreshJob name).bind Run.outcome) x := by
  refine along_bind_iff.mpr (along_bind_iff.mpr ((along_acquireOrContend start fresh).weaken
    fun result y ended => ?_))
  match result with
  | .error _ => trivial
  | .ok lease =>
  obtain ⟨start, unwritten⟩ := ended
  refine along_refreshing y.store (course.still y) rfl ?_ ?_ ?_ fun record holds _ => ?_
  · exact fun _ => course.along_releaseAndFail lease _ fun _ _ => trivial
  · exact fun _ => course.along_releaseAndFail lease _ fun _ _ => trivial
  · exact fun _ _ _ => course.along_releaseAndFail lease _ fun _ _ => trivial
  · exact along_startRotation _ (course.loads record y start holds) unwritten start

theorem along_refreshes (course : r.Course allows own name) {p : Program Outcome}
    (run : r.Refreshes name p) (start : course.start x) (fresh : r.Fresh x) :
    Along (Moment.surroundings allows) Eq own course.Ended p x := by
  cases run with
  | tick => exact along_tick course start fresh
  | onDemand => exact along_refresh course start fresh

private theorem asks_createIndexIfAbsent :
    r.records.createIndexIfAbsent.Asks fun request => ∀ i, r.IsData i → request.Spares i := by
  refine ⟨fun _ _ => Request.spares_of_isRead rfl _, fun found => ?_⟩
  match found with
  | .error _ => trivial
  | .ok true => trivial
  | .ok false =>
    refine ⟨fun i data => Request.spares_of_ne data.2.symm, fun made => ?_⟩
    match made with
    | .ok () => trivial
    | .error e => cases e <;> trivial

private theorem asks_put (record : Job.Record) :
    (r.records.put record).Asks fun request => ∀ i, r.IsData i → request.Spares i := by
  refine ⟨fun _ _ => trivial, fun now => ?_⟩
  refine ⟨fun i data => Request.spares_of_ne data.2.symm, fun made => ?_⟩
  match made with
  | .ok _ => trivial
  | .error e => cases e <;> trivial

theorem asks_checkSchedule {may : Request → Prop} (schedule : Job.Schedule) :
    (checkSchedule schedule).Asks may := by
  unfold checkSchedule
  cases schedule.refusal? with
  | error => trivial
  | ok refusal => cases refusal <;> trivial

private theorem asks_feedFor (name : String) :
    (Program.feedFor name).Asks fun request => ∀ i, r.IsData i → request.Spares i :=
  ⟨fun _ _ => trivial, fun answer => asks_ofExcept answer⟩

/-- A new job that loads its first generation, if nothing is asked of its moves. -/
theorem along_create (course : r.Course allows (fun _ _ => True) name)
    (starts : ∀ x, course.start x) (all : ∀ record, course.known record) (schedule : Job.Schedule)
    (fresh : r.Fresh x) :
    Along (Moment.surroundings allows) Eq (fun _ _ => True) course.Ended
      ((r.createJob name schedule).bind Run.outcome) x := by
  refine along_bind_iff.mpr ?_
  unfold Runner.createJob
  refine along_bind_iff.mpr ((fresh.along (asks_ofExcept _) (Nat.zero_le _)).weaken
    fun result x checked => ?_)
  match result with
  | .error _ => trivial
  | .ok () =>
  refine along_bind_iff.mpr ((checked.1.along (asks_checkSchedule schedule) (Nat.zero_le _)).weaken
    fun result x checked => ?_)
  match result with
  | .error _ => trivial
  | .ok () =>
  refine along_bind_iff.mpr ((checked.1.along (asks_feedFor name) (Nat.zero_le _)).weaken
    fun result x found => ?_)
  match result with
  | .error _ | .ok none => trivial
  | .ok (some feed) =>
  show Along _ _ _ _ (r.records.createIndexIfAbsent.bind _) x
  refine along_bind_iff.mpr ((found.1.along asks_createIndexIfAbsent (Nat.zero_le _)).weaken
    fun result x made => ?_)
  match result with
  | .error _ => trivial
  | .ok () =>
  refine along_bind_iff.mpr ((along_acquireOrContend (starts x) made.1).weaken
    fun result x taken => ?_)
  match result with
  | .error _ => trivial
  | .ok lease =>
  obtain ⟨-, unwritten⟩ := taken
  have fresh : r.Fresh x := fun i data => (unwritten i).written data
  intro _ same (now : Reading) y answered
  subst same
  obtain ⟨-, rfl⟩ := answered
  refine ⟨trivial, ?_⟩
  show Along _ _ _ _ ((r.records.put (.create name schedule now.instant)).attempt.bind _) y
  refine along_bind_iff.mpr (along_attempt_iff.mpr
    ((fresh.along (asks_put _) (unwritten "").issued).weaken fun result x written => ?_))
  match result with
  | .error (.error e) => exact course.along_releaseAndFail lease e fun _ _ => trivial
  | .error (.fault _) => trivial
  | .ok record =>
  have unwritten : r.Unwritten (x, lease) := fun i => ⟨written.1 i, written.2⟩
  exact along_startRotation .createFailed (all record) unwritten (starts x)

end Course

end Runner

end IndicatorFeeds

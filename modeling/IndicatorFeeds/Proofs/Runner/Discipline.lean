import IndicatorFeeds.Proofs.Runner.Reachable
import IndicatorFeeds.Proofs.Runner.Tending

/-!
The discipline of leases. An operation that finds the lease of its job held is turned away and changes
nothing that anyone else could see. An operation that takes the lease gives it back, however it ends;
and no operation changes the lease of another job.
-/

namespace IndicatorFeeds.Runner

open Store (Memory MemoryIndex Call)
open Program Rotation

variable {r : Runner} {allows : (r : Request) → r.Answer → Prop} {name : String}
  {record : Job.Record} {x y : Moment} {lease : Lease} {m m' : Memory}

/-- How an operation ends that does not get the lease of its job. -/
inductive TurnedAway (r : Runner) (name : String) :
    {α : Type} → Program α → Except Failure α → Prop where
  | create (schedule : Job.Schedule) :
      TurnedAway r name ((r.createJob name schedule).bind Run.outcome)
        (.error (.error (.contention s!"job {name} is locked")))
  | refresh : TurnedAway r name ((r.refreshJob name).bind Run.outcome)
      (.error (.error (.contention s!"job {name} is locked")))
  | scheduled : TurnedAway r name (r.runScheduled name) (.ok .locked)
  | tick : TurnedAway r name (r.runJob name).outcome (.ok .locked)
  | update (update : JobUpdate) : TurnedAway r name (r.updateJob name update)
      (.error (.error (.contention s!"job {name} is locked")))
  | delete : TurnedAway r name (r.deleteJob name)
      (.error (.error (.contention s!"job {name} is locked")))

/-- The operations that may load a generation. -/
inductive Fetches (r : Runner) (name : String) : {α : Type} → Program α → Prop where
  | create (schedule : Job.Schedule) :
      Fetches r name ((r.createJob name schedule).bind Run.outcome)
  | refresh : Fetches r name ((r.refreshJob name).bind Run.outcome)
  | scheduled : Fetches r name (r.runScheduled name)
  | tick : Fetches r name (r.runJob name).outcome

/-- Between two stores no lease, no record and no index of data has changed. -/
structure Undisturbed (r : Runner) (m m' : Memory) : Prop where
  leases : ∀ id, m'.document? r.leases.index id = m.document? r.leases.index id
  records : ∀ id, m'.document? r.records.index id = m.document? r.records.index id
  data : ∀ i, r.IsData i → m'.indices.find? i = m.indices.find? i

/-- A run has written no lease, or nobody has the lease of its job any more. -/
def Relinquished (r : Runner) (name : String) (y : Moment) : Prop :=
  y.written r.leases.index = [] ∨ y.store.document? r.leases.index name = none

private theorem along_acquire_idle (fresh : r.Fresh x) (idle : x.written r.leases.index = []) :
    Along (Moment.surroundings allows) Eq (r.leases.OthersKept name)
      (fun result y => r.leases.ChangesOnly name x y ∧ match result with
        | .ok (some lease) => r.Taken allows name (y, lease)
        | _ => y.written r.leases.index = []) (r.acquire name) x := by
  have writes : Along (Moment.surroundings allows) Eq _ _ (r.acquire name) x :=
    LeaseService.along_acquire_written r.leases name r.config.lease.durationSecs x
  refine ((along_acquire_taken fresh).and writes).mono (fun _ _ same => same)
    (fun _ _ moved => moved.1.documents) fun result y ended => ?_
  obtain ⟨⟨changes, taken⟩, written⟩ := ended
  refine ⟨changes, ?_⟩
  match result with
  | .ok (some lease) => exact taken
  | .ok none | .error _ => exact (congrFun written _).trans idle

private theorem along_acquireOrContend_idle (fresh : r.Fresh x)
    (idle : x.written r.leases.index = []) :
    Along (Moment.surroundings allows) Eq (r.leases.OthersKept name)
      (fun result y => r.leases.ChangesOnly name x y ∧ match result with
        | .ok lease => r.Taken allows name (y, lease)
        | .error _ => y.written r.leases.index = []) (r.acquireOrContend name) x := by
  refine along_bind_iff.mpr ((along_acquire_idle fresh idle).weaken fun result y ended => ?_)
  match result with
  | .ok (some lease) => exact ended
  | .ok none | .error _ => exact ended

private theorem along_releaseAndFail_gone {e : Error} {ends : Except Failure Run → Moment → Prop}
    (taken : r.Taken allows name (y, lease))
    (fails : ∀ z, z.store.document? r.leases.index name = none → ends (.error (.error e)) z) :
    Along (Moment.surroundings allows) Eq (r.leases.OthersKept name) ends
      (r.releaseAndFail lease e : Program Run) y := by
  have gives : Along (Moment.surroundings allows) Eq _ _ (r.leases.releaseQuietly lease) y :=
    LeaseService.along_releaseQuietly_held r.leases taken.holds
  rw [taken.owned] at gives
  refine along_bind_iff.mpr (gives.mono (fun _ _ same => same) (fun _ _ changes => changes.documents)
    fun result z ended => ?_)
  obtain ⟨rfl, gone⟩ := ended
  exact fails z gone

/-- Work that tends the lease of a job ends with the lease given back. -/
private theorem along_withLease_gone {work : Program α} {faulty : Fault → Prop}
    (inRange : r.InRange allows) (taken : r.Taken allows name (y, lease))
    (along : Along (r.held allows) Eq r.leases.Tended (Settled faulty) work (y, lease)) :
    Along (Moment.surroundings allows) Eq (r.leases.OthersKept name)
      (Concludes (fun _ z => z.store.document? r.leases.index name = none) (fun _ _ => False)
        fun f _ => faulty f) (r.leases.withLease lease work) y := by
  have times : ∀ takenAt, takenAt = lease.takenAt ∨ allows .now takenAt →
      ∃ due, takenAt.plus r.leases.renewAfter = .ok due := by
    rintro takenAt (rfl | told)
    · exact inRange _ taken.timely
    · exact inRange _ told
  have gone := LeaseService.along_withLease_tended taken.holds times along
  rw [show lease.resource = name from taken.owned] at gone
  exact gone

/-- A rotation ends with its lease given back, if there is room for a batch. -/
private theorem along_startRotation_gone {failureState : Job.State} (separate : r.Separate)
    (inRange : r.InRange allows) (taken : r.Taken allows name (y, lease))
    (listed : ∀ i ∈ record.indices, r.IsData i) :
    Along (Moment.surroundings allows) Eq (r.leases.OthersKept name)
      (fun _ z => z.store.document? r.leases.index name = none ∨ ¬r.Roomy)
      (r.startRotation record lease failureState).outcome y := by
  have works : Along (r.held allows) Eq r.leases.Tended (Settled r.Crowded)
      ((KeepAlive.during (Program.request .turn)).bind fun _ =>
        r.executeRotation record failureState) (y, lease) := by
    refine along_bind_iff.mpr (Along.during (fun _ _ => .inl)
      (fun x a y answered => (held_of_other answered nofun nofun).2) .refl ?_)
    intro z renewals _ w answered
    obtain ⟨-, rfl⟩ := held_of_other answered nofun nofun
    have unwritten : r.Unwritten w := fun i => (taken.unwritten i).renewals renewals
    exact ⟨.refl w, along_executeRotation_tended separate listed unwritten⟩
  refine along_orOnFault_iff.mpr (along_bind_iff.mpr
    ((along_withLease_gone inRange taken works).weaken fun result z ended => ?_))
  match result with
  | .ok _ => exact .inl ended
  | .error (.fault _) => exact .inr ended.2

private theorem along_underLease_gone {work : Program α} (inRange : r.InRange allows)
    (along : ∀ y lease, r.Taken allows name (y, lease) → r.leases.ChangesOnly name (.start m) y →
      Along (r.held allows) (r.held allows).renewals r.leases.Tended (Settled fun _ => False) work
        (y, lease)) :
    Along (Moment.surroundings allows) Eq (r.leases.OthersKept name)
      (fun _ y => r.Relinquished name y) (r.underLease name work) (.start m) := by
  refine along_bind_iff.mpr ((along_acquireOrContend_idle (fun _ _ => rfl) rfl).weaken
    fun result y ended => ?_)
  obtain ⟨changes, ended⟩ := ended
  match result with
  | .error _ => exact .inl ended
  | .ok lease =>
  have works : Along (r.held allows) Eq r.leases.Tended (Settled fun _ => False)
      (KeepAlive.during work) (y, lease) :=
    Along.during (fun _ _ => .inl) (fun x a y answered => (held_of_other answered nofun nofun).2)
      .refl (along y lease ended changes)
  refine along_bind_iff.mpr ((along_withLease_gone inRange ended works).weaken
    fun result z gone => ?_)
  match result with
  | .ok (.ok _) => exact .inr gone
  | .ok (.error _) => exact .inr gone

private theorem admissible_of_changesOnly (separate : r.Separate)
    (admissible : r.Admissible name x.store) (changes : r.leases.ChangesOnly name x y) :
    r.Admissible name y.store := by
  refine admissible.congr ?_
  rw [Memory.document?, Memory.document?, changes.indices _ separate.apart.symm]

private theorem along_runScheduled_relinquished (separate : r.Separate)
    (admissible : r.Admissible name m) (inRange : r.InRange allows) :
    Along (Moment.surroundings allows) Eq (r.leases.OthersKept name)
      (fun _ y => r.Relinquished name y ∨ ¬r.Roomy) (r.runScheduled name) (.start m) := by
  refine along_bind_iff.mpr (along_attempt_iff.mpr
    ((along_acquire_idle (fun _ _ => rfl) rfl).weaken fun result y ended => ?_))
  obtain ⟨changes, ended⟩ := ended
  match result with
  | .error (.error _) | .error (.fault _) | .ok none => exact .inl (.inl ended)
  | .ok (some lease) =>
  have admissible := admissible_of_changesOnly separate admissible changes
  have works : Along (r.held allows) Eq r.leases.Tended (Settled r.Crowded)
      (r.scheduledUpdate name) (y, lease) :=
    along_scheduledUpdate_tended separate admissible ended.unwritten
  refine along_bind_iff.mpr ((along_withLease_gone inRange ended works).weaken
    fun result z ended => ?_)
  match result with
  | .ok _ => exact .inl (.inr ended)
  | .error (.fault _) => exact .inr ended.2

private theorem along_tick_relinquished (separate : r.Separate) (admissible : r.Admissible name m)
    (inRange : r.InRange allows) :
    Along (Moment.surroundings allows) Eq (r.leases.OthersKept name)
      (fun _ y => r.Relinquished name y ∨ ¬r.Roomy) (r.runJob name).outcome (.start m) := by
  refine along_orOnFault_iff.mpr ?_
  rintro _ rfl _ y ⟨-, rfl⟩
  refine ⟨.refl _, (along_runScheduled_relinquished separate admissible inRange).weaken
    fun result y ended => ?_⟩
  match result with
  | .ok _ | .error (.error _) | .error (.fault _) => exact ended

private theorem along_refresh_relinquished (separate : r.Separate)
    (admissible : r.Admissible name m) (inRange : r.InRange allows) :
    Along (Moment.surroundings allows) Eq (r.leases.OthersKept name)
      (fun _ y => r.Relinquished name y ∨ ¬r.Roomy) ((r.refreshJob name).bind Run.outcome)
      (.start m) := by
  refine along_bind_iff.mpr (along_bind_iff.mpr
    ((along_acquireOrContend_idle (fun _ _ => rfl) rfl).weaken fun result y ended => ?_))
  obtain ⟨changes, ended⟩ := ended
  match result with
  | .error _ => exact .inl (.inl ended)
  | .ok lease =>
  have admissible := admissible_of_changesOnly separate admissible changes
  refine along_refreshing y.store (.refl y) rfl ?_ ?_ ?_ fun record holds _ => ?_
  · exact fun _ => along_releaseAndFail_gone ended fun _ gone => .inl (.inr gone)
  · exact fun _ => along_releaseAndFail_gone ended fun _ gone => .inl (.inr gone)
  · exact fun _ _ _ => along_releaseAndFail_gone ended fun _ gone => .inl (.inr gone)
  · exact (along_startRotation_gone separate inRange ended
      (admissible.listed record holds)).weaken fun _ _ => Or.imp_left .inr

private theorem along_create_relinquished (separate : r.Separate) (inRange : r.InRange allows)
    (schedule : Job.Schedule) :
    Along (Moment.surroundings allows) Eq (r.leases.OthersKept name)
      (fun _ y => r.Relinquished name y ∨ ¬r.Roomy) ((r.createJob name schedule).bind Run.outcome)
      (.start m) := by
  have nothing : r.Relinquished name (.start m) ∨ ¬r.Roomy := .inl (.inl rfl)
  refine along_bind_iff.mpr ?_
  unfold Runner.createJob
  cases Job.checkName name with
  | error => exact nothing
  | ok =>
  show Along _ _ _ _ ((checkSchedule schedule).bind _) _
  rcases checkSchedule_cases schedule with ⟨e, checked⟩ | ⟨checked, -⟩ <;> rw [checked]
  · exact nothing
  rintro _ rfl (found : Except Error (Option Feed.Metadata)) y ⟨-, rfl⟩
  refine ⟨.refl _, ?_⟩
  match found with
  | .error _ | .ok none => exact nothing
  | .ok (some feed) =>
  show Along _ _ _ _ (r.records.createIndexIfAbsent.bind _) _
  have creates : Along (Moment.surroundings allows) Eq (r.Confined name (fun _ => True) fun _ => True)
      (fun _ y => r.Prepared m y) _ _ := along_createIndexIfAbsent
  refine along_bind_iff.mpr (creates.mono (fun _ _ same => same)
    (fun _ _ confined id other => confined.documents _ _ (fun data => data.1 rfl) other)
    fun result x prepared => ?_)
  have idle : x.written r.leases.index = [] := congrFun prepared.written _
  match result with
  | .error _ => exact .inl (.inl idle)
  | .ok () =>
  refine along_bind_iff.mpr ((along_acquireOrContend_idle prepared.fresh idle).weaken
    fun result y ended => ?_)
  obtain ⟨-, ended⟩ := ended
  match result with
  | .error _ => exact .inl (.inl ended)
  | .ok lease =>
  rintro _ rfl (reading : Reading) z ⟨-, rfl⟩
  refine ⟨.refl _, ?_⟩
  let now := reading.instant
  show Along _ _ _ _ ((r.records.put (.create name schedule now)).attempt.bind _) z
  refine along_bind_iff.mpr (along_attempt_iff.mpr (along_put lease .refl
    (fun later w _ _ saved => ?_) fun e => along_releaseAndFail_gone ended fun _ gone =>
      .inl (.inr gone)))
  have tended := saved.tended separate.apart
  have taken := ended.saved separate.apart saved
  refine ⟨fun id other => tended.others id (ended.owned ▸ other), ?_⟩
  have listed : ∀ i ∈ ((Job.Record.create name schedule now).writtenAt later).indices, r.IsData i :=
    fun _ member => absurd member List.not_mem_nil
  exact (along_startRotation_gone separate inRange taken listed).weaken fun _ _ => Or.imp_left .inr

private theorem along_update_relinquished (separate : r.Separate)
    (admissible : r.Admissible name m) (inRange : r.InRange allows) (update : JobUpdate) :
    Along (Moment.surroundings allows) Eq (r.leases.OthersKept name)
      (fun _ y => r.Relinquished name y) (r.updateJob name update) (.start m) := by
  have works (chosen : ∀ schedule, update.schedule = some schedule →
      ∃ span, schedule.interval = .ok span) :
      Along (Moment.surroundings allows) Eq (r.leases.OthersKept name)
        (fun _ y => r.Relinquished name y) (r.underLease name (r.updateHeld name update))
        (.start m) :=
    along_underLease_gone inRange fun y lease _ changes =>
      along_updateHeld_tended separate (admissible_of_changesOnly separate admissible changes) chosen
  unfold Runner.updateJob
  cases given : update.schedule with
  | none => exact works fun schedule same => by cases given.symm.trans same
  | some schedule =>
  show Along _ _ _ _ ((checkSchedule schedule).bind _) _
  rcases checkSchedule_cases schedule with ⟨e, checked⟩ | ⟨checked, lasting⟩ <;> rw [checked]
  · exact .inl rfl
  · refine works fun other same => ?_
    obtain rfl := Option.some.inj (given.symm.trans same)
    exact lasting

private theorem along_operates_relinquished {p : Program α} (separate : r.Separate)
    (admissible : r.Admissible name m) (inRange : r.InRange allows)
    (operates : r.Operates name p) :
    Along (Moment.surroundings allows) Eq (r.leases.OthersKept name)
      (fun _ y => r.Relinquished name y ∨ r.Fetches name p ∧ ¬r.Roomy) p (.start m) := by
  cases operates with
  | create schedule =>
    exact (along_create_relinquished separate inRange schedule).weaken fun _ _ =>
      Or.imp_right (.intro (.create schedule))
  | refresh =>
    exact (along_refresh_relinquished separate admissible inRange).weaken fun _ _ =>
      Or.imp_right (.intro .refresh)
  | scheduled =>
    exact (along_runScheduled_relinquished separate admissible inRange).weaken fun _ _ =>
      Or.imp_right (.intro .scheduled)
  | tick =>
    exact (along_tick_relinquished separate admissible inRange).weaken fun _ _ =>
      Or.imp_right (.intro .tick)
  | update update =>
    exact (along_update_relinquished separate admissible inRange update).weaken fun _ _ => .inl
  | delete =>
    have deletes := along_underLease_gone inRange fun y lease _ changes =>
      along_deleteHeld_tended separate (admissible_of_changesOnly separate admissible changes)
    exact deletes.weaken fun _ _ => .inl

/-- A run that is told at first a time at which the lease of its job stands comes to this result, and
has disturbed nothing. -/
def GivesWay (r : Runner) (name : String) (m : Memory) (turned : Except Failure α)
    (result : Except Failure α) (y : Moment × Option Reading) : Prop :=
  ∀ now, y.2 = some now → r.leases.Stands name now m → result = turned ∧ r.Undisturbed m y.1.store

/-- A run gives way, and if it is told no time it fails. -/
def Heeds (r : Runner) (name : String) (m : Memory) (turned : Except Failure α)
    (result : Except Failure α) (y : Moment × Option Reading) : Prop :=
  r.GivesWay name m turned result y ∧ (y.2 = none → ∃ e, result = .error e)

private theorem heeds_fail {e : Failure} {turned : Except Failure α} (y : Moment) :
    r.Heeds name m turned (.error e) (y, none) :=
  ⟨fun _ told => (by cases told), fun _ => ⟨e, rfl⟩⟩

/-- Once a run has been told a time at which the lease does not stand, nothing is said of it. -/
private theorem along_free {p : Program α} {now : Reading} {turned : Except Failure α}
    (free : ¬r.leases.Stands name now m) (y : Moment) :
    Along (Moment.surroundings allows).noting Eq (fun _ _ => True) (r.Heeds name m turned) p
      (y, some now) := by
  refine (along_told p y now).weaken fun result z told => ⟨fun now' told' stands => ?_, fun none => ?_⟩
  · obtain rfl := Option.some.inj (told.symm.trans told')
    exact absurd stands free
  · cases told.symm.trans none

private theorem along_bind_heeds {p : Program α} {f : α → Program β} {e : Failure}
    {s : Moment × Option Reading}
    (along : Along (Moment.surroundings allows).noting Eq (fun _ _ => True)
      (r.Heeds name m (.error e)) p s) :
    Along (Moment.surroundings allows).noting Eq (fun _ _ => True) (r.Heeds name m (.error e))
      (p.bind f) s := by
  refine along_bind_iff.mpr (along.weaken fun result y ⟨away, failed⟩ => ?_)
  match result with
  | .error e' =>
    refine ⟨fun now told stands => ?_, fun _ => ⟨e', rfl⟩⟩
    obtain ⟨same, undisturbed⟩ := away now told stands
    exact ⟨congrArg Except.error (Except.error.inj same), undisturbed⟩
  | .ok a =>
    obtain ⟨y, first⟩ := y
    cases first with
    | none =>
      obtain ⟨_, failed⟩ := failed rfl
      cases failed
    | some now =>
      refine along_free (fun stands => ?_) y
      cases (away now rfl stands).1

private theorem along_acquire_heeds (separate : r.Separate) (prepared : r.Prepared m x) :
    Along (Moment.surroundings allows).noting Eq (fun _ _ => True)
      (r.Heeds name m (.ok none)) (r.acquire name) (x, none) := by
  have takes : Along (Moment.surroundings allows) Eq _ _ _ _ :=
    LeaseService.along_acquire_took r.leases name r.config.lease.durationSecs x
  have tries : Along (Moment.surroundings allows).noting Eq _ _ _ _ :=
    LeaseService.along_acquire_tried r.leases name r.config.lease.durationSecs x
  have moved := takes.moved (fun _ => .refl _) fun _ _ _ => .trans
  refine ((moved.noting none).and tries).mono (fun _ _ same => same) (fun _ _ _ => trivial)
    fun result y ended => ?_
  obtain ⟨⟨changes, took⟩, tried⟩ := ended
  rcases tried.standing with ⟨untold, -, e, rfl⟩ | ⟨now, told, away⟩
  · refine ⟨fun now told => ?_, fun _ => ⟨_, rfl⟩⟩
    cases told.symm.trans untold
  refine ⟨fun now' told' stands => ?_, fun untold => ?_⟩
  · obtain rfl := Option.some.inj (told.symm.trans told')
    obtain rfl := away.mpr (stands.congr (prepared.leases separate.apart name))
    refine ⟨rfl, fun id => ?_, fun id => ?_, fun i data => ?_⟩
    · refine Eq.trans ?_ (prepared.leases separate.apart id)
      by_cases same : id = name
      · exact same ▸ took.1
      · exact changes.documents id same
    · rw [Memory.document?, changes.indices _ separate.apart.symm, ← Memory.document?]
      exact prepared.records id
    · exact (changes.indices i data.1).trans (prepared.others i data.2)
  · cases told.symm.trans untold

private theorem along_contend {f : Lease → Program α} (separate : r.Separate)
    (prepared : r.Prepared m x) :
    Along (Moment.surroundings allows).noting Eq (fun _ _ => True)
      (r.Heeds name m (.error (.error (.contention s!"job {name} is locked"))))
      ((r.acquireOrContend name).bind f) (x, none) := by
  refine along_bind_heeds (along_bind_iff.mpr ((along_acquire_heeds separate prepared).weaken
    fun result y ⟨away, failed⟩ => ?_))
  match result with
  | .error e =>
    exact ⟨fun now told stands => (by cases (away now told stands).1), fun _ => ⟨e, rfl⟩⟩
  | .ok none => exact ⟨fun now told stands => ⟨rfl, (away now told stands).2⟩, fun _ => ⟨_, rfl⟩⟩
  | .ok (some lease) =>
    refine ⟨fun now told stands => (by cases (away now told stands).1), fun untold => ?_⟩
    obtain ⟨_, failed⟩ := failed untold
    cases failed

private theorem along_runScheduled_givesWay (separate : r.Separate) :
    Along (Moment.surroundings allows).noting Eq (fun _ _ => True)
      (r.GivesWay name m (.ok .locked)) (r.runScheduled name) (.start m, none) := by
  refine along_bind_iff.mpr (along_attempt_iff.mpr
    ((along_acquire_heeds separate prepared_start).weaken fun result y ⟨away, failed⟩ => ?_))
  match result with
  | .error (.error _) | .error (.fault _) =>
    exact fun now told stands => by cases (away now told stands).1
  | .ok none => exact fun now told stands => ⟨rfl, (away now told stands).2⟩
  | .ok (some lease) =>
    obtain ⟨y, first⟩ := y
    cases first with
    | none =>
      obtain ⟨_, failed⟩ := failed rfl
      cases failed
    | some now =>
      have free : ¬r.leases.Stands name now m := fun stands => by cases (away now rfl stands).1
      exact (along_free free y).weaken fun _ _ => And.left

private theorem along_tick_givesWay (separate : r.Separate) :
    Along (Moment.surroundings allows).noting Eq (fun _ _ => True)
      (r.GivesWay name m (.ok .locked)) (r.runJob name).outcome (.start m, none) := by
  refine along_orOnFault_iff.mpr ?_
  rintro _ rfl _ ⟨y, first⟩ ⟨⟨-, rfl⟩, rfl⟩
  refine ⟨trivial, (along_runScheduled_givesWay separate).weaken fun result y away => ?_⟩
  match result with
  | .ok _ | .error (.error _) => exact away
  | .error (.fault _) => exact fun now told stands => by cases (away now told stands).1

private theorem asks_createIndexIfAbsent_untold (records : Job.Records) :
    records.createIndexIfAbsent.Asks (· ≠ .now) := by
  refine ⟨nofun, fun found => ?_⟩
  match found with
  | .error _ | .ok true => trivial
  | .ok false =>
    refine ⟨nofun, fun made => ?_⟩
    match made with
    | .ok () => trivial
    | .error e => cases e <;> trivial

private theorem along_create_heeds (separate : r.Separate) (schedule : Job.Schedule) :
    Along (Moment.surroundings allows).noting Eq (fun _ _ => True)
      (r.Heeds name m (.error (.error (.contention s!"job {name} is locked"))))
      ((r.createJob name schedule).bind Run.outcome) (.start m, none) := by
  refine along_bind_heeds ?_
  unfold Runner.createJob
  cases Job.checkName name with
  | error => exact heeds_fail _
  | ok =>
  show Along _ _ _ _ ((checkSchedule schedule).bind _) _
  rcases checkSchedule_cases schedule with ⟨e, checked⟩ | ⟨checked, -⟩ <;> rw [checked]
  · exact heeds_fail _
  rintro _ rfl (found : Except Error (Option Feed.Metadata)) ⟨y, first⟩ ⟨⟨-, rfl⟩, rfl⟩
  refine ⟨trivial, ?_⟩
  match found with
  | .error _ | .ok none => exact heeds_fail _
  | .ok (some feed) =>
  show Along _ _ _ _ (r.records.createIndexIfAbsent.bind _) _
  have creates : Along (Moment.surroundings allows) Eq (r.Confined name (fun _ => True) fun _ => True)
      (fun _ y => r.Prepared m y) _ _ := along_createIndexIfAbsent
  have untold := (asks_createIndexIfAbsent_untold r.records).untold
    (Moment.surroundings allows) (.start m)
  refine along_bind_iff.mpr (((creates.noting none).and untold).mono
    (fun _ _ same => same) (fun _ _ _ => trivial) fun result y ended => ?_)
  obtain ⟨y, first⟩ := y
  obtain ⟨prepared, rfl⟩ : r.Prepared m y ∧ first = none := ended
  match result with
  | .error _ => exact heeds_fail _
  | .ok () => exact along_contend separate prepared

private theorem along_update_heeds (separate : r.Separate) (update : JobUpdate) :
    Along (Moment.surroundings allows).noting Eq (fun _ _ => True)
      (r.Heeds name m (.error (.error (.contention s!"job {name} is locked"))))
      (r.updateJob name update) (.start m, none) := by
  unfold Runner.updateJob
  cases update.schedule with
  | none => exact along_contend separate prepared_start
  | some schedule =>
  show Along _ _ _ _ ((checkSchedule schedule).bind _) _
  rcases checkSchedule_cases schedule with ⟨e, checked⟩ | ⟨checked, -⟩ <;> rw [checked]
  · exact heeds_fail _
  · exact along_contend separate prepared_start

private theorem along_operates_givesWay (allows : (r : Request) → r.Answer → Prop) (m : Memory)
    {p : Program α} (separate : r.Separate)
    (operates : r.Operates name p) : ∃ turned, r.TurnedAway name p turned ∧
      Along (Moment.surroundings allows).noting Eq (fun _ _ => True) (r.GivesWay name m turned) p
        (.start m, none) := by
  cases operates with
  | create schedule =>
    exact ⟨_, .create schedule, (along_create_heeds separate schedule).weaken fun _ _ => And.left⟩
  | refresh =>
    exact ⟨_, .refresh, (along_bind_heeds (along_contend separate prepared_start)).weaken
      fun _ _ => And.left⟩
  | scheduled => exact ⟨_, .scheduled, along_runScheduled_givesWay separate⟩
  | tick => exact ⟨_, .tick, along_tick_givesWay separate⟩
  | update update =>
    exact ⟨_, .update update, (along_update_heeds separate update).weaken fun _ _ => And.left⟩
  | delete =>
    exact ⟨_, .delete, (along_contend separate prepared_start).weaken fun _ _ => And.left⟩

/-- An operation that is told at first a time at which the lease of its job stands is turned away and
disturbs nothing. If it has written a lease, nobody has the lease of its job when it has ended, however
it has ended; if it may load a generation, this needs room for a batch. It leaves the leases of other
jobs as they are. -/
theorem lease_discipline {config : Config.EngineConfig} {service : Nat} {p : Program α}
    {result : Except Failure α} {first : Option Reading}
    (created : Runner.create config service = .ok r) (default : config.store = {})
    (admissible : r.Admissible name m) (inRange : r.InRange allows) (operates : r.Operates name p)
    (ended : Ends (Moment.surroundings allows).noting p (.start m, none) result (y, first)) :
    (∀ now, first = some now → r.leases.Stands name now m →
      r.TurnedAway name p result ∧ r.Undisturbed m y.store) ∧
    ((r.Fetches name p → r.Roomy) → y.written r.leases.index ≠ [] →
      y.store.document? r.leases.index name = none) ∧
    ∀ other, other ≠ name →
      y.store.document? r.leases.index other = m.document? r.leases.index other := by
  have separate := separate_of_default created default
  have plain : Ends (Moment.surroundings allows) p (.start m) result y := ended.state
  obtain ⟨others, relinquished⟩ := ((along_operates_relinquished separate admissible inRange
    operates).moved .refl fun _ _ _ => .trans).ended plain
  obtain ⟨turned, away, along⟩ := along_operates_givesWay allows m separate operates
  refine ⟨fun now told stands => ?_, fun roomy wrote => ?_, others⟩
  · obtain ⟨rfl, undisturbed⟩ := along.ended ended now told stands
    exact ⟨away, undisturbed⟩
  · rcases relinquished with (idle | gone) | ⟨fetches, crowded⟩
    · exact absurd idle wrote
    · exact gone
    · exact absurd (roomy fetches) crowded

section

open Example

/-- A store with a job whose lease someone else has. -/
private def leasedElsewhere : Memory :=
  served.write ".threatintel-job-locks" "job" (LeaseDocument.toJson ⟨"job", .epoch, 300⟩)

private def timed (p : Program α) (m : Memory) : Except Failure α × Moment × Option Reading :=
  p.run (Surroundings.noted (Moment.answeredBy answer)) (.start m, none)

private theorem ends_timed (p : Program α) (m : Memory) :
    Ends (Moment.surroundings Same).noting p (.start m, none) (timed p m).1 (timed p m).2 := by
  refine ends_run (Surroundings.noted_allowed fun q x => ?_) p _
  cases q with
  | store c => exact ⟨_, rfl, rfl⟩
  | _ => exact ⟨rfl, rfl⟩

private theorem admissible_served {m : Memory}
    (same : m.document? ".threatintel-jobs" "job" = served.document? ".threatintel-jobs" "job") :
    runner.Admissible "job" m := by
  have holds : runner.records.Holds served "job" available :=
    ⟨_, by rfl, Job.Record.fromJson?_toJson available⟩
  refine Admissible.congr ⟨fun record there => ?_, fun record there => ?_⟩ same <;>
    obtain rfl := holds.unique there
  · rfl
  · exact available_data

/-- A tick that finds the lease held is turned away, and a deletion that takes the lease gives it
back. -/
theorem lease_discipline_job :
    (runner.TurnedAway "job" (runner.runJob "job").outcome
        (timed (runner.runJob "job").outcome leasedElsewhere).1 ∧
      runner.Undisturbed leasedElsewhere
        (timed (runner.runJob "job").outcome leasedElsewhere).2.1.store) ∧
    (timed (runner.deleteJob "job") served).2.1.store.document? ".threatintel-job-locks" "job" =
      none := by
  have created : Runner.create {} 0 = .ok runner := by rfl
  have stands : runner.leases.Stands "job" (.whole .epoch) leasedElsewhere :=
    ⟨_, ⟨"job", .epoch, 300⟩, by rfl, LeaseDocument.fromJson?_toJson _, by rfl⟩
  have told : (timed (runner.runJob "job").outcome leasedElsewhere).2.2 = some (.whole .epoch) := by
    decide +kernel
  have wrote : (timed (runner.deleteJob "job") served).2.1.written runner.leases.index ≠ [] := by
    decide +kernel
  have away := lease_discipline created rfl (admissible_served (by rfl)) inRange_same .tick
    (ends_timed _ leasedElsewhere)
  have gone := lease_discipline created rfl (admissible_served rfl) inRange_same .delete
    (ends_timed _ served)
  have deletes : runner.Fetches "job" (runner.deleteJob "job") → runner.Roomy := fun _ => roomy_runner
  exact ⟨away.1 _ told stands, gone.2.1 deletes wrote⟩

/-- The creation of a job that is aborted, since there is no room for a batch, keeps its lease. -/
theorem lease_left_behind : Runner.create hoarding 0 = .ok hoarder ∧ hoarder.Admissible "job" .empty ∧
    (timed creation .empty).1.toOption = some (.failed "task aborted") ∧
      (timed creation .empty).2.1.written hoarder.leases.index ≠ [] ∧
        (timed creation .empty).2.1.store.document? ".threatintel-job-locks" "job" ≠ none := by
  refine ⟨by rfl, ⟨fun record holds => ?_, fun record holds => ?_⟩, by decide +kernel,
    by decide +kernel, ?_⟩
  · obtain ⟨_, there, -⟩ := holds
    cases there
  · obtain ⟨_, there, -⟩ := holds
    cases there
  · have there : ((timed creation .empty).2.1.store.document? ".threatintel-job-locks" "job").isSome =
        true := by
      decide +kernel
    exact fun gone => by simp [gone] at there

end

end IndicatorFeeds.Runner

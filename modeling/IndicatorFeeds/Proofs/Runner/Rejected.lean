import IndicatorFeeds.Proofs.Runner.Operations

namespace IndicatorFeeds

open Store (Memory)
open Program Rotation

/-- The error of a call that is refused: someone else has the lease, or the call is not valid. -/
def Error.Refuses (e : Error) : Prop :=
  (∃ what, e = .contention what) ∨ e.isValidation = true

private theorem Error.not_refuses_store (cause : Store.Error) : ¬(Error.store cause).Refuses := by
  rintro (⟨what, same⟩ | valid)
  · cases same
  · cases valid

namespace Runner

variable {r : Runner} {allows : (r : Request) → r.Answer → Prop} {name : String} {m m' : Memory}
  {x y : Moment × Lease}

/-- How a call ends that leaves this if its error is of some kind. -/
def Leaves {σ : Type} (kind : Error → Prop) (left : σ → Prop) : Except Failure α → σ → Prop
  | .error (.error e), s => kind e → left s
  | .ok _, _ | .error (.fault _), _ => True

/-- Nothing has been done to a store but the taking of the lease of a job, which was free. -/
structure Leased (r : Runner) (allows : (r : Request) → r.Answer → Prop) (name : String) (m : Memory)
    (x : Moment × Lease) : Prop extends m.DocumentChange r.leases.index name x.1.store where
  holds : r.leases.Holds x
  owned : x.2.resource = name
  free : ∃ now, allows .now now ∧ r.leases.Free name now m

/-- Nothing has been done to a store, unless the lease of a job was free and has been taken and given
back. -/
structure Released (r : Runner) (allows : (r : Request) → r.Answer → Prop) (name : String)
    (m m' : Memory) : Prop extends m.DocumentChange r.leases.index name m' where
  lease : m'.document? r.leases.index name = m.document? r.leases.index name ∨
    m'.document? r.leases.index name = none ∧ ∃ now, allows .now now ∧ r.leases.Free name now m

theorem Released.refl (m : Memory) : r.Released allows name m m :=
  ⟨.refl m r.leases.index name, .inl rfl⟩

theorem Leased.agrees (leased : r.Leased allows name m x) : r.Agrees m x.1.store :=
  ⟨leased.faults, leased.indices⟩

theorem Leased.renewals (leased : r.Leased allows name m x)
    (renewals : (r.held allows).renewals x y) : r.Leased allows name m y := by
  refine kept_renewals (r.Leased allows name m) (fun y z renewed leased => ?_) renewals leased
  have changes := renewed.changesOnly.toDocumentChange
  rw [leased.owned] at changes
  exact ⟨leased.toDocumentChange.trans changes, renewed.holds leased.holds,
    renewed.resource_eq.trans leased.owned, leased.free⟩

private theorem along_acquire_leased (x : Moment) :
    Along (Moment.surroundings allows) Eq (fun _ _ => True)
      (fun result y => match result with
        | .ok lease => r.Leased allows name x.store (y, lease)
        | .error _ => r.Released allows name x.store y.store) (r.acquireOrContend name) x := by
  have takes : Along (Moment.surroundings allows) Eq _ _ _ x :=
    LeaseService.along_acquire_took r.leases name r.config.lease.durationSecs x
  have moved := takes.moved (fun y => .refl y) fun _ _ _ => .trans
  refine along_bind_iff.mpr (moved.ending.weaken fun result y ended => ?_)
  obtain ⟨changes, took⟩ := ended
  match result with
  | .ok (some lease) =>
    obtain ⟨holds, owned, timely, free, -⟩ := took
    exact ⟨changes.toDocumentChange, holds, owned, _, timely, free⟩
  | .ok none | .error (.error _) | .error (.fault _) =>
    exact ⟨changes.toDocumentChange, .inl took.1⟩

private theorem along_release_leased {x : Moment} {lease : Lease}
    (leased : r.Leased allows name m (x, lease)) :
    Along (Moment.surroundings allows) Eq (fun _ _ => True)
      (fun _ y => r.Released allows name m y.store) (r.leases.releaseQuietly lease) x := by
  have gives : Along (Moment.surroundings allows) Eq _ _ _ x :=
    LeaseService.along_releaseQuietly_held r.leases leased.holds
  rw [leased.owned] at gives
  have moved := gives.moved (fun y => .refl y) fun _ _ _ => .trans
  refine moved.ending.weaken fun result y ended => ?_
  obtain ⟨changes, -, gone⟩ := ended
  exact ⟨leased.toDocumentChange.trans changes.toDocumentChange, .inr ⟨gone, leased.free⟩⟩

private theorem along_releaseAndFail_leased {x : Moment} {lease : Lease} {e : Error}
    {left : Moment → Prop} (leased : r.Leased allows name m (x, lease))
    (leaves : ∀ y, r.Released allows name m y.store → left y) :
    Along (Moment.surroundings allows) Eq (fun _ _ => True) (Leaves (fun _ => True) left)
      (r.releaseAndFail lease e : Program α) x := by
  refine along_bind_iff.mpr ((along_release_leased leased).weaken fun result y released => ?_)
  match result with
  | .ok () | .error (.error _) => exact fun _ => leaves y released
  | .error (.fault _) => trivial

/-- Work that has done nothing but take the lease when it fails gives the lease back. -/
private theorem along_underLease_leased {work : Program α} {kind : Error → Prop}
    (along : ∀ y, r.Leased allows name m y →
      Along (r.held allows) (r.held allows).renewals (fun _ _ => True)
        (Leaves kind (r.Leased allows name m)) work y) :
    Along (Moment.surroundings allows) Eq (fun _ _ => True)
      (Leaves kind fun y => r.Released allows name m y.store) (r.underLease name work) (.start m) := by
  refine along_bind_iff.mpr ((along_acquire_leased (.start m)).weaken fun result y ended => ?_)
  match result with
  | .error (.error _) => exact fun _ => ended
  | .error (.fault _) => trivial
  | .ok lease =>
  let ends (result : Except Failure (Except Error α)) (z : Moment) : Prop :=
    match result with
    | .ok (.error e) => kind e → r.Released allows name m z.store
    | .error (.error _) => False
    | .ok (.ok _) | .error (.fault _) => True
  have works : Along (r.held allows) Eq (fun _ _ => True) _ (KeepAlive.during work) (y, lease) :=
    Along.during (fun _ _ _ => trivial) (fun x a y answered => (held_of_other answered nofun nofun).2)
      (fun _ => trivial) (along (y, lease) ended)
  have gives : Along (Moment.surroundings allows) Eq (fun _ _ => True) ends
      (r.leases.withLease lease (KeepAlive.during work)) y := by
    refine along_withLease r.leases (fun _ => trivial) (fun _ _ _ _ => trivial) (fun _ _ => trivial)
      (works.weaken fun result z failed => ?_)
    match result with
    | .ok _ => exact along_trivial _ _
    | .error (.fault _) => trivial
    | .error (.error e) =>
      by_cases refused : kind e
      · exact (along_release_leased (failed refused)).weaken fun _ _ released _ => released
      · exact (along_trivial _ _).weaken fun _ _ _ refuses => absurd refuses refused
  refine along_bind_iff.mpr (gives.weaken fun result z given => ?_)
  match result with
  | .ok (.ok _) | .error (.fault _) => trivial
  | .ok (.error _) => exact given

/-- A new job is not begun before its record is written. -/
private theorem along_createJob_rejected (schedule : Job.Schedule) :
    Along (Moment.surroundings allows) Eq (fun _ _ => True)
      (Leaves (fun _ => True) fun y => ∃ x, r.Prepared m x ∧ r.Released allows name x.store y.store)
      (r.createJob name schedule) (.start m) := by
  have nothing : ∃ x, r.Prepared m x ∧ r.Released allows name x.store m :=
    ⟨.start m, prepared_start, .refl m⟩
  unfold Runner.createJob
  cases Job.checkName name with
  | error => exact fun _ => nothing
  | ok =>
  show Along _ _ _ _ ((checkSchedule schedule).bind _) _
  rcases checkSchedule_cases schedule with ⟨e, checked⟩ | ⟨checked, -⟩ <;> rw [checked]
  · cases e with
    | error => exact fun _ => nothing
    | fault => trivial
  rintro _ rfl (found : Except Error (Option Feed.Metadata)) y ⟨-, rfl⟩
  refine ⟨trivial, ?_⟩
  match found with
  | .error _ | .ok none => exact fun _ => nothing
  | .ok (some feed) =>
  have prepares : Along (Moment.surroundings allows) Eq
      (r.Confined name (fun _ => True) fun _ => True) (fun _ y => r.Prepared m y) _ (.start m) :=
    along_createIndexIfAbsent
  show Along _ _ _ _ (r.records.createIndexIfAbsent.bind _) _
  refine along_bind_iff.mpr (prepares.ending.weaken fun result x prepared => ?_)
  match result with
  | .error (.error _) => exact fun _ => ⟨x, prepared, .refl x.store⟩
  | .error (.fault _) => trivial
  | .ok () =>
  refine along_bind_iff.mpr ((along_acquire_leased x).weaken fun result y ended => ?_)
  match result with
  | .error (.error _) => exact fun _ => ⟨x, prepared, ended⟩
  | .error (.fault _) => trivial
  | .ok lease =>
  rintro _ rfl (now : Reading) z ⟨-, rfl⟩
  refine ⟨trivial, ?_⟩
  show Along _ _ _ _ ((r.records.put (.create name schedule now.instant)).attempt.bind _) z
  refine along_bind_iff.mpr (along_attempt_iff.mpr (along_put lease (fun _ => trivial)
    (fun later w _ _ _ => ⟨trivial, trivial⟩) fun e => ?_))
  exact along_releaseAndFail_leased ended fun w released => ⟨x, prepared, released⟩

/-- An update that fails has not written the record. -/
private theorem along_updateJob_rejected (apart : r.leases.index ≠ r.records.index)
    (update : JobUpdate) :
    Along (Moment.surroundings allows) Eq (fun _ _ => True)
      (Leaves (fun _ => True) fun y => r.Released allows name m y.store)
      (r.updateJob name update) (.start m) := by
  have updates (chosen : ∀ schedule, update.schedule = some schedule →
      ∃ span, schedule.interval = .ok span) :
      Along (Moment.surroundings allows) Eq (fun _ _ => True)
        (Leaves (fun _ => True) fun y => r.Released allows name m y.store)
        (r.underLease name (r.updateHeld name update)) (.start m) := by
    refine along_underLease_leased fun y leased => ?_
    refine along_updateHeld_while (r.Leased allows name m) apart (fun _ => Leased.agrees)
      (fun _ _ renewals leased => leased.renewals renewals) leased (fun _ => trivial) chosen ?_ ?_ ?_
    · exact fun e z leased _ => leased
    · exact fun _ _ _ _ _ => trivial
    · exact fun _ _ _ _ _ _ _ _ _ => ⟨trivial, trivial⟩
  unfold Runner.updateJob
  cases chosen : update.schedule with
  | none => exact updates fun _ same => by cases chosen.symm.trans same
  | some schedule =>
    show Along _ _ _ _ ((checkSchedule schedule).bind _) _
    rcases checkSchedule_cases schedule with ⟨e, checked⟩ | ⟨checked, lasting⟩ <;> rw [checked]
    · cases e with
      | error => exact fun _ => .refl m
      | fault => trivial
    · refine updates fun other same => ?_
      obtain rfl := Option.some.inj (chosen.symm.trans same)
      exact lasting

/-- A refresh that fails has not begun. -/
private theorem along_refreshJob_rejected (apart : r.leases.index ≠ r.records.index) :
    Along (Moment.surroundings allows) Eq (fun _ _ => True)
      (Leaves (fun _ => True) fun y => r.Released allows name m y.store) (r.refreshJob name)
      (.start m) := by
  refine along_bind_iff.mpr ((along_acquire_leased (.start m)).weaken fun result y ended => ?_)
  match result with
  | .error (.error _) => exact fun _ => ended
  | .error (.fault _) => trivial
  | .ok lease =>
  have leased : r.Leased allows name m (y, lease) := ended
  have fails (e : Error) : Along (Moment.surroundings allows) Eq (fun _ _ => True)
      (Leaves (fun _ => True) fun z => r.Released allows name m z.store)
      (r.releaseAndFail lease e : Program Run) y :=
    along_releaseAndFail_leased leased fun _ => id
  exact along_refreshing m trivial (leased.agrees.document? apart) (fun _ => fails _) (fun _ => fails _)
    (fun _ _ _ => fails _) fun _ _ _ => trivial

/-- A deletion that is refused has not begun. Once the record is marked as being deleted it is still
there when it is to be removed, and no other error than one of the store can come by. -/
private theorem along_deleteHeld_rejected (apart : r.leases.index ≠ r.records.index)
    (listed : ∀ record, r.records.Holds m name record → ∀ i ∈ record.indices, r.IsData i)
    (names : ∀ base, ∀ i ∈ generationNames base, r.IsData i) (leased : r.Leased allows name m x) :
    Along (r.held allows) (r.held allows).renewals (fun _ _ => True)
      (Leaves Error.Refuses (r.Leased allows name m)) (r.deleteHeld name) x := by
  have kept : ∀ y z, (r.held allows).renewals y z → r.Leased allows name m y →
      r.Leased allows name m z := fun _ _ renewals leased => leased.renewals renewals
  refine (along_requireRecord_while (r.Leased allows name m) apart (fun _ => Leased.agrees) kept leased
    (fun _ => trivial)).next (fun e y ended _ => ended.1) fun record y ⟨leased, holds⟩ => ?_
  show Along _ _ _ _ ((r.records.update { record with state := .deleting }).bind _) y
  refine along_bind_iff.mpr (along_bind_iff.mpr (along_save_while (r.Leased allows name m) kept leased
    (fun _ => trivial) (fun now y z leased _ saved => ⟨trivial, ?_⟩) fun _ y leased _ _ => leased))
  have present : z.1.store.document? r.records.index name ≠ none := by
    obtain ⟨-, rfl⟩ := saved
    refine Memory.present_write ?_ _ _ _
    rw [leased.agrees.document? apart]
    exact holds.present
  refine (along_indicesOf (fun _ => trivial) (.refl z.1.store)).next (fun _ _ => False.elim)
    fun indices w ⟨agrees, belong⟩ => ?_
  have data : ∀ i ∈ indices, r.IsData i := fun i member =>
    (belong.known i member).elim (listed record holds i) fun ⟨_, _, named⟩ => names _ i named
  refine (along_deleteIndices (fun _ => trivial) (fun _ _ _ _ _ _ => trivial) agrees).attempted
    (fun _ w ended => ?_) fun e w ended => ?_
  · obtain ⟨cleared, -⟩ := ended
    intro v renewals a u answered
    have cleared := (Cleared.ignores indices z.1.store).renewals renewals cleared
    have present : v.1.store.document? r.records.index name ≠ none := by
      rw [Memory.document?, cleared.records apart data]
      exact present
    obtain ⟨⟨store, answer, -⟩, -⟩ := answered
    refine ⟨trivial, ?_⟩
    rcases Memory.changed_cases answer with ⟨rfl, -⟩ | ⟨e, -, refused, -⟩
    · trivial
    · exact absurd refused (Memory.deleteDocument_ne_error present)
  · obtain ⟨-, i, -, -, rfl⟩ := ended
    show Along _ _ _ _ ((r.saveQuietly _).bind _) w
    refine along_bind_iff.mpr (along_bind_iff.mpr (along_save_while (fun _ => True)
      (fun _ _ _ => id) trivial (fun _ => trivial) (fun _ _ v _ _ _ => ⟨trivial, ?_⟩) fun _ v _ _ => ?_))
    all_goals exact fun refuses => absurd refuses (Error.not_refuses_store _)

private theorem along_deleteJob_rejected (apart : r.leases.index ≠ r.records.index)
    (listed : ∀ record, r.records.Holds m name record → ∀ i ∈ record.indices, r.IsData i)
    (names : ∀ base, ∀ i ∈ generationNames base, r.IsData i) :
    Along (Moment.surroundings allows) Eq (fun _ _ => True)
      (Leaves Error.Refuses fun y => r.Released allows name m y.store) (r.deleteJob name)
      (.start m) :=
  along_underLease_leased fun _ leased => along_deleteHeld_rejected apart listed names leased

/-- How a call is turned away: there is an error in the place of a record or of a run, or a deletion is
refused. -/
inductive Rejected (r : Runner) (allows : (r : Request) → r.Answer → Prop) (name : String) (m : Memory)
    (y : Moment) : Prop where
  | create {schedule : Job.Schedule} {e : Error} (ended : Ends (Moment.surroundings allows)
      (r.createJob name schedule) (.start m) (.error (.error e)) y)
  | update {update : JobUpdate} {e : Error} (ended : Ends (Moment.surroundings allows)
      (r.updateJob name update) (.start m) (.error (.error e)) y)
  | refresh {e : Error} (ended : Ends (Moment.surroundings allows)
      (r.refreshJob name) (.start m) (.error (.error e)) y)
  | delete {e : Error} (ended : Ends (Moment.surroundings allows)
      (r.deleteJob name) (.start m) (.error (.error e)) y) (refuses : e.Refuses)

/-- Between two stores no job has changed, neither its record nor its data. -/
structure Unharmed (r : Runner) (allows : (r : Request) → r.Answer → Prop) (name : String)
    (m m' : Memory) : Prop where
  data : ∀ i, r.IsData i → m'.indices.find? i = m.indices.find? i
  records : ∀ id, m'.document? r.records.index id = m.document? r.records.index id
  /-- The index of records is as it was, unless it has been made. -/
  made : m'.indices.find? r.records.index = m.indices.find? r.records.index ∨
    m.indices.find? r.records.index = none ∧
      m'.indices.find? r.records.index = some (Memory.freshIndex true)
  leases : ∀ id, id ≠ name → m'.document? r.leases.index id = m.document? r.leases.index id
  /-- The index of leases is kept as it was, unless it has been made. -/
  kept : ∀ flags, m.flags? r.leases.index = some flags → m'.flags? r.leases.index = some flags
  /-- The lease of the job is as it was, or it is gone and was over. -/
  lease : m'.document? r.leases.index name = m.document? r.leases.index name ∨
    m'.document? r.leases.index name = none ∧ ∃ now, allows .now now ∧ r.leases.Free name now m

/-- A call that is turned away changes nothing but the lease of its job and what has to be there for a
new one. -/
theorem rejected_call_unharmed {config : Config.EngineConfig} {service : Nat} {y : Moment}
    (created : Runner.create config service = .ok r) (default : config.store = {})
    (listed : ∀ record, r.records.Holds m name record → ∀ i ∈ record.indices, r.IsData i)
    (rejected : r.Rejected allows name m y) : r.Unharmed allows name m y.store := by
  have apart := apart_of_create created
  have names (base : String) : ∀ i ∈ generationNames base, r.IsData i := fun i named =>
    isData_of_default created default named
  have left : ∃ x, r.Prepared m x ∧ r.Released allows name x.store y.store := by
    cases rejected with
    | create ended => exact (along_createJob_rejected _).ended ended trivial
    | update ended =>
      exact ⟨.start m, prepared_start, (along_updateJob_rejected apart _).ended ended trivial⟩
    | refresh ended =>
      exact ⟨.start m, prepared_start, (along_refreshJob_rejected apart).ended ended trivial⟩
    | delete ended refuses =>
      exact ⟨.start m, prepared_start,
        (along_deleteJob_rejected apart listed names).ended ended refuses⟩
  obtain ⟨x, prepared, released⟩ := left
  have records := released.indices _ apart.symm
  have leases : x.store.indices.find? r.leases.index = m.indices.find? r.leases.index :=
    prepared.others _ apart
  have document (id : String) := prepared.leases apart id
  refine ⟨fun i data => ?_, fun id => ?_, ?_, fun id other => ?_, fun flags there => ?_, ?_⟩
  · exact (released.indices i data.1).trans (prepared.others i data.2)
  · rw [Memory.document?, records]
    exact prepared.records id
  · rw [records]
    exact prepared.made
  · exact (released.documents id other).trans (document id)
  · refine released.flags flags ?_
    rw [Memory.flags?, leases]
    exact there
  · rcases released.lease with same | ⟨gone, now, allowed, free⟩
    · exact .inl (same.trans (document name))
    · exact .inr ⟨gone, now, allowed, free.congr (document name).symm⟩

section

open Example

/-- There is a lease that is over, and the feed of the job has lost a field. -/
private def abandoned : Memory :=
  (served.write ".threatintel-job-locks" "job" (LeaseDocument.toJson ⟨"job", .epoch, 0⟩)).write
    ".threatintel-jobs" "job" { available with feedFields := ["gone"] }.toJson

private def updateEnd : Moment :=
  ((runner.updateJob "job" {}).run (Moment.answeredBy answer) (.start abandoned)).2

/-- An update is rejected for the header of the feed, and the abandoned lease is gone. -/
theorem rejected_call_unharmed_header :
    runner.Unharmed (answers feed reply) "job" abandoned updateEnd.store ∧
      abandoned.document? ".threatintel-job-locks" "job" ≠ none ∧
        updateEnd.store.document? ".threatintel-job-locks" "job" = none := by
  have created : Runner.create {} 0 = .ok runner := by rfl
  have ended : Ends (Moment.surroundings (answers feed reply)) (runner.updateJob "job" {})
      (.start abandoned) (.error (.error (.incompatibleFields ["gone"]))) updateEnd :=
    Moment.ends_answeredBy_error answer_allowed _ (.start abandoned) (by decide +kernel)
  have listed : ∀ record, runner.records.Holds abandoned "job" record →
      ∀ i ∈ record.indices, runner.IsData i := by
    intro record holds
    have stored : runner.records.Holds abandoned "job" { available with feedFields := ["gone"] } :=
      ⟨_, Memory.document?_write_self _ _ _ _, Job.Record.fromJson?_toJson _⟩
    obtain rfl := stored.unique holds
    exact available_data
  have facts : (abandoned.document? ".threatintel-job-locks" "job").isSome = true ∧
      (updateEnd.store.document? ".threatintel-job-locks" "job").isNone = true := by
    decide +kernel
  exact ⟨rejected_call_unharmed created rfl listed (.update ended),
    Option.isSome_iff_ne_none.mp facts.1, Option.isNone_iff_eq_none.mp facts.2⟩

end

end Runner

end IndicatorFeeds

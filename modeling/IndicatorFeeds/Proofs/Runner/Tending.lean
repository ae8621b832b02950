import IndicatorFeeds.Proofs.Lease.Standing
import IndicatorFeeds.Proofs.Runner.Operations

namespace IndicatorFeeds

open Store (Memory MemoryIndex Call)
open Program Rotation

section

variable {index : String}

private theorem safe_remove (records : Job.Records) (name : String)
    (apart : records.index ≠ index) :
    (records.delete name).Safe (Request.Spares index) := by
  refine ⟨Request.spares_of_ne apart, fun a => ?_⟩
  match a with
  | .ok () => trivial
  | .error e => cases e <;> trivial

theorem safe_withTicks (record : Job.Record) (choice : Option Bool) :
    (Runner.withTicks record choice).Safe (Request.Spares index) := by
  match choice with
  | none | some false => trivial
  | some true => exact ⟨trivial, fun _ => trivial⟩

end

namespace Runner

variable {r : Runner} {allows : (r : Request) → r.Answer → Prop} {name : String}
  {record : Job.Record} {x : Moment × Lease}

/-- Every record of a job has a schedule that is accepted, and lists no index of the engine's own. -/
structure Admissible (r : Runner) (name : String) (m : Memory) : Prop where
  schedule : ∀ record, r.records.Holds m name record → record.schedule.refusal? = .ok none
  listed : ∀ record, r.records.Holds m name record → ∀ i ∈ record.indices, r.IsData i

theorem Admissible.congr {m m' : Memory} (admissible : r.Admissible name m)
    (same : m'.document? r.records.index name = m.document? r.records.index name) :
    r.Admissible name m' where
  schedule := fun record holds => admissible.schedule record (holds.of_document? same)
  listed := fun record holds => admissible.listed record (holds.of_document? same)

/-- The runner's own indices differ, and no generation has the name of one of them. -/
structure Separate (r : Runner) : Prop where
  apart : r.leases.index ≠ r.records.index
  generations : ∀ base, ∀ i ∈ generationNames base, r.IsData i

theorem separate_of_default {config : Config.EngineConfig} {service : Nat}
    (created : Runner.create config service = .ok r) (default : config.store = {}) : r.Separate :=
  ⟨apart_of_create created, fun _ _ named => isData_of_default created default named⟩

private theorem safe_saveQuietly (record : Job.Record) (apart : r.leases.index ≠ r.records.index) :
    (r.saveQuietly record).Safe (Request.Spares r.leases.index) :=
  ⟨trivial, fun _ => ⟨Request.spares_of_ne apart.symm, fun _ => trivial⟩⟩

theorem Saved.tended {x y : Moment × Lease} (saved : r.Saved record x y)
    (apart : r.leases.index ≠ r.records.index) : r.leases.Tended x y := by
  have spares : (Request.store (.putDocument r.records.index record.name record.toJson
      .overwrite)).Spares r.leases.index := Request.spares_of_ne apart.symm
  exact .of_spares spares (saved.answered fun _ _ => True)

private def tending (separate : r.Separate) (listed : ∀ i ∈ record.indices, r.IsData i)
    (failureState : Job.State) : r.Stages allows r.leases.Tended record failureState where
  still := .refl
  renews := fun _ _ => .inl
  before := fun _ => True
  renewed := fun _ _ _ _ _ => id
  marks := fun _ _ _ _ _ saved => ⟨saved.tended separate.apart, trivial⟩
  building := fun _ _ => True
  begins := fun _ _ _ _ _ _ => id
  builds := by
    intro feed request x a y found touches _ answered
    have data : r.IsData (r.nextIndex record feed) :=
      separate.generations _ _ (nextName_mem _ _)
    exact ⟨.of_spares (touches _ data.1.symm) answered, trivial⟩
  after := fun _ _ _ => True
  swaps := fun _ _ _ _ _ _ _ _ _ _ _ _ _ _ _ _ _ _ _ _ _ _ saved =>
    ⟨saved.tended separate.apart, trivial⟩
  removes := by
    intro feed served index x a y stale _ answered
    have data : r.IsData index := listed index (List.mem_filter.mp stale).1
    have spares : (Request.store (.deleteIndex index)).Spares r.leases.index :=
      Request.spares_of_ne data.1
    exact ⟨.of_spares spares answered, trivial⟩
  finished := fun _ _ => True
  clean := fun _ _ _ _ _ => trivial
  tidies := fun _ _ _ _ _ _ _ _ _ _ saved => ⟨saved.tended separate.apart, trivial⟩
  untidied := fun _ _ _ _ _ => trivial
  broken := fun _ _ => True
  unfit := fun _ _ _ _ => trivial
  hindered := fun _ _ _ _ _ _ => trivial
  failed := fun _ _ => True
  fails := fun _ _ _ _ _ _ _ _ saved => ⟨saved.tended separate.apart, trivial⟩
  unrecorded := fun _ _ _ _ => trivial
  unmarked := fun _ _ _ => trivial
  aborted := fun _ => True
  crowded := fun _ _ _ _ => id

/-- How work ends that has tended its lease: with a value or an error, or with one of some faults. -/
abbrev Settled (faulty : Fault → Prop) : Except Failure α → Moment × Lease → Prop :=
  Concludes (fun _ _ => True) (fun _ _ => True) fun f _ => faulty f

theorem along_executeRotation_tended {failureState : Job.State} (separate : r.Separate)
    (listed : ∀ i ∈ record.indices, r.IsData i) (unwritten : r.Unwritten x) :
    Along (r.held allows) Eq r.leases.Tended (Settled r.Crowded)
      (r.executeRotation record failureState) x := by
  refine ((tending separate listed failureState).along_executeRotation unwritten trivial).weaken
    fun result _ ended => ?_
  match result with
  | .ok _ | .error (.error _) => trivial
  | .error (.fault _) => exact ended.1

private theorem along_safe {others : Moment × Lease → Moment × Lease → Prop} {p : Program α}
    {faulty : Fault → Prop} (safe : p.Safe (Request.Spares r.leases.index)) (x : Moment × Lease) :
    Along (r.held allows) others r.leases.Tended (Settled faulty) p x :=
  (safe.settles (fun _ _ _ _ spares answered => .of_spares spares answered) x).weaken
    fun _ _ => Settles.concludes

theorem along_scheduledUpdate_tended (separate : r.Separate)
    (admissible : r.Admissible name x.1.store) (unwritten : r.Unwritten x) :
    Along (r.held allows) Eq r.leases.Tended (Settled r.Crowded) (r.scheduledUpdate name) x := by
  have saves (changed : Job.Record) (outcome : Outcome) :
      ((r.saveQuietly changed).bind fun _ => done outcome).Safe (Request.Spares r.leases.index) :=
    (safe_saveQuietly changed separate.apart).bind fun _ => (trivial : (done outcome).Safe _)
  refine along_scheduled x.1.store .refl rfl (fun _ => trivial) (fun _ => trivial) ?_ ?_ ?_
  · exact fun record now _ _ _ => along_safe (saves (record.disable.recordFailure now) _) x
  · exact fun record now _ _ _ => along_safe (saves (record.recordSkip now) _) x
  · exact fun record holds _ _ =>
      along_executeRotation_tended separate (admissible.listed record holds) unwritten

theorem along_updateHeld_tended {update : JobUpdate} (separate : r.Separate)
    (admissible : r.Admissible name x.1.store)
    (chosen : ∀ schedule, update.schedule = some schedule → ∃ span, schedule.interval = .ok span) :
    Along (r.held allows) (r.held allows).renewals r.leases.Tended (Settled fun _ => False)
      (r.updateHeld name update) x := by
  refine along_updateHeld_while (fun y => r.Agrees x.1.store y.1.store) separate.apart (fun _ => id)
    (fun _ _ renewals => (Agrees.ignores x.1.store).renewals renewals) (.refl x.1.store) .refl chosen
    (fun _ _ _ => trivial) (fun record f y holds endless => ?_) ?_
  · obtain ⟨span, interval⟩ := lasting_of_refusal (admissible.schedule record holds)
    cases endless.symm.trans interval
  · exact fun _ _ _ _ _ _ _ _ saved => ⟨saved.tended separate.apart, trivial⟩

theorem along_deleteHeld_tended (separate : r.Separate) (admissible : r.Admissible name x.1.store) :
    Along (r.held allows) (r.held allows).renewals r.leases.Tended (Settled fun _ => False)
      (r.deleteHeld name) x := by
  refine (along_requireRecord_while (fun y => r.Agrees x.1.store y.1.store) separate.apart (fun _ => id)
    (fun _ _ renewals => (Agrees.ignores x.1.store).renewals renewals) (.refl x.1.store) .refl).next
      (fun _ _ _ => trivial) fun record y ⟨_, holds⟩ => ?_
  have listed := admissible.listed record holds
  refine along_safe ?_ y
  show Program.Safe _ ((r.records.update { record with state := .deleting }).bind _)
  refine ⟨trivial, fun (now : Reading) =>
    ⟨Request.spares_of_ne separate.apart.symm, fun written => ?_⟩⟩
  cases written with
  | error => trivial
  | ok =>
  have removes {indices : List String} {restored : Job.Record} {f : Except Error Unit → Program Unit}
      (data : ∀ i ∈ indices, r.IsData i)
      (failed : ∀ e, f (.error e) = (r.saveQuietly restored).bind fun _ => Program.error e)
      (done : ∀ u, f (.ok u) = r.records.delete name) :
      ((deleteIndices indices).attempt.bind f).Safe (Request.Spares r.leases.index) := by
    have deletes := safe_deleteIndices fun i member => Request.spares_of_ne (data i member).1
    refine deletes.attempt.bind fun removed => ?_
    cases removed with
    | error e =>
      rw [failed]
      exact (safe_saveQuietly restored separate.apart).bind fun _ => trivial
    | ok u =>
      rw [done]
      exact safe_remove r.records name separate.apart.symm
  refine ⟨trivial, fun answer => ?_⟩
  cases answer with
  | error => exact removes listed (fun _ => rfl) fun _ => rfl
  | ok found =>
    refine removes (fun i member => ?_) (fun _ => rfl) fun _ => rfl
    rcases List.mem_append.mp member with recorded | named
    · exact listed i recorded
    · exact separate.generations _ i (List.mem_filter.mp named).1

end Runner

end IndicatorFeeds

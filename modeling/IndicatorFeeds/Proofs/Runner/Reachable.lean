import IndicatorFeeds.Proofs.Rotation.Names
import IndicatorFeeds.Proofs.Runner.AtRest
import Mathlib.Data.List.Perm.Subperm

/-!
What any sequence of operations makes of a store that was empty at its start. Between two operations
nobody has a lease, and every record is at rest; as long as a job keeps its feed, its record lists
no index but the two generations of that feed.
-/

namespace IndicatorFeeds.Runner

open Store (Memory MemoryIndex Call)
open Program Rotation

variable {r : Runner} {allows : (r : Request) → r.Answer → Prop} {name : String}
  {may : String → Prop} {record : Job.Record} {m m' : Memory}
  {possible : ((q : Request) → q.Answer → Prop) → Prop}

/-- The time after which a lease may be renewed is one, whenever the lease is taken. -/
def InRange (r : Runner) (allows : (q : Request) → q.Answer → Prop) : Prop :=
  ∀ t, allows .now t → ∃ later, t.plus r.leases.renewAfter = .ok later

/-- Answers in range that give a job no feed but those with one id. -/
def KeepsFeed (r : Runner) (name feedId : String) (allows : (q : Request) → q.Answer → Prop) :
    Prop :=
  r.InRange allows ∧ ∀ feed, allows (.feedFor name) (.ok (some feed)) → feed.feedId = feedId

/-- From one store to the next: other faults are set, or an operation on a job is carried to its
end with answers that are possible. -/
inductive Step (r : Runner) (possible : ((q : Request) → q.Answer → Prop) → Prop) :
    Memory → Memory → Prop where
  | faults (m : Memory) (faults : Store.Faults) : Step r possible m { m with faults }
  | operation {m : Memory} {allows : (q : Request) → q.Answer → Prop} {name : String} {α : Type}
      {p : Program α} {result : Except Failure α} {y : Moment} (answers : possible allows)
      (operates : r.Operates name p)
      (ended : Ends (Moment.surroundings allows) p (.start m) result y) : Step r possible m y.store

/-- From one store to a later one. -/
abbrev Leads (r : Runner) (possible : ((q : Request) → q.Answer → Prop) → Prop) :
    Memory → Memory → Prop :=
  Relation.ReflTransGen (r.Step possible)

/-- A store between two operations: nobody has a lease, leases and records can be written, and every
record is sound. -/
structure Orderly (r : Runner) (m : Memory) : Prop where
  free : ∀ name, m.document? r.leases.index name = none
  leasable : m.isBlocked r.leases.index = false
  writable : m.isBlocked r.records.index = false
  sound : ∀ name record, r.records.Holds m name record →
    Sound (fun i => ∃ base, i ∈ generationNames base) name record

theorem orderly_empty : r.Orderly .empty :=
  ⟨fun _ => rfl, rfl, rfl, fun _ _ ⟨_, there, _⟩ => by cases there⟩

section

variable {config : Config.EngineConfig} {service : Nat}
  (created : Runner.create config service = .ok r) (default : config.store = {}) (roomy : r.Roomy)

include created default roomy

/-- Every job of an orderly store is ready for an operation. -/
theorem Orderly.ready (orderly : r.Orderly m) (inRange : r.InRange allows)
    (listed : ∀ record, r.records.Holds m name record → ∀ i ∈ record.indices, may i)
    (names : ∀ found, allows (.feedFor name) (.ok found) →
      ∀ i ∈ generationNames (baseName r.config.rotation.dataIndexPrefix name
        ((found.map (·.feedId)).getD name)), may i) : r.Ready allows name may m where
  apart := apart_of_create created
  named := fun record holds => (orderly.sound name record holds).named
  listed := by
    intro record holds i member
    obtain ⟨base, named⟩ := (orderly.sound name record holds).listed i member
    exact ⟨isData_of_default created default named, listed record holds i member⟩
  names := fun found answer i named =>
    ⟨isData_of_default created default named, names found answer i named⟩
  renewable := by
    rintro f ⟨t, allowed, fault⟩
    obtain ⟨later, plus⟩ := inRange t allowed
    cases plus.symm.trans fault
  roomy
  free := orderly.free name
  lasting := fun record holds => (orderly.sound name record holds).lasting

theorem Orderly.ended {p : Program α} {result : Except Failure α} {y : Moment}
    (orderly : r.Orderly m) (inRange : r.InRange allows) (operates : r.Operates name p)
    (ended : Ends (Moment.surroundings allows) p (.start m) result y) :
    r.Confined name (fun _ => True) (r.MayWrite allows name m) (.start m) y ∧
      r.Left allows name m y.store := by
  have ready : r.Ready allows name (fun _ => True) m :=
    orderly.ready created default roomy inRange (fun _ _ _ _ => trivial) fun _ _ _ _ => trivial
  obtain ⟨confined, closed⟩ :=
    ((ready.along_operates operates).moved .refl fun _ _ _ => .trans).ended ended
  exact ⟨confined, ready.left closed⟩

omit created default roomy in
private theorem holds_other {other : String} {writes : Option Job.Record → Prop} {y : Moment}
    (confined : r.Confined name may writes (.start m) y) (different : other ≠ name)
    (holds : r.records.Holds y.store other record) : r.records.Holds m other record :=
  holds.of_document? (confined.documents _ _ (fun data => data.2 rfl) different)

theorem Step.orderly (step : r.Step r.InRange m m') (orderly : r.Orderly m) : r.Orderly m' := by
  cases step with
  | faults => exact ⟨orderly.free, orderly.leasable, orderly.writable, orderly.sound⟩
  | @operation allows name _ _ _ y inRange operates ended =>
    obtain ⟨confined, left⟩ := orderly.ended created default roomy inRange operates ended
    have leasable : y.store.isBlocked r.leases.index = false :=
      (confined.blocked _ fun data => data.1 rfl).trans orderly.leasable
    have writable : y.store.isBlocked r.records.index = false :=
      (confined.blocked _ fun data => data.2 rfl).trans orderly.writable
    refine ⟨fun other => ?_, leasable, writable, fun other record holds => ?_⟩
    · by_cases same : other = name
      · exact same ▸ left.free
      · exact (confined.documents _ _ (fun data => data.1 rfl) same).trans (orderly.free other)
    · by_cases same : other = name
      · subst same
        exact left.turned.sound (orderly.sound other) (fun _ _ _ _ => ⟨_, nextName_mem _ _⟩) writable
          holds
      · exact orderly.sound other record (holds_other confined same holds)

theorem Leads.orderly (leads : r.Leads r.InRange m m') (orderly : r.Orderly m) : r.Orderly m' := by
  induction leads with
  | refl => exact orderly
  | tail _ step ih => exact step.orderly created default roomy ih

/-- As long as the feed of a job has the same id as when the job was created, its record lists no
index but the generations of that feed. -/
theorem Leads.listed {feedId : String} {m₀ : Memory} (orderly : r.Orderly m₀)
    (absent : m₀.document? r.records.index name = none)
    (leads : r.Leads (r.KeepsFeed name feedId) m₀ m) (holds : r.records.Holds m name record) :
    ∀ i ∈ record.indices,
      i ∈ generationNames (baseName r.config.rotation.dataIndexPrefix name feedId) := by
  suffices kept : r.Orderly m ∧ ∀ record, r.records.Holds m name record →
      Sound (· ∈ generationNames (baseName r.config.rotation.dataIndexPrefix name feedId)) name
        record from (kept.2 record holds).listed
  clear holds
  induction leads with
  | refl => exact ⟨orderly, fun record holds => absurd absent holds.present⟩
  | tail _ step ih =>
    obtain ⟨orderly, sound⟩ := ih
    cases step with
    | faults => exact ⟨⟨orderly.free, orderly.leasable, orderly.writable, orderly.sound⟩, sound⟩
    | @operation allows other _ _ _ y possible operates ended =>
      have step : r.Step r.InRange _ y.store := .operation possible.1 operates ended
      have after := step.orderly created default roomy orderly
      obtain ⟨confined, left⟩ := orderly.ended created default roomy possible.1 operates ended
      refine ⟨after, fun record holds => ?_⟩
      by_cases same : name = other
      · subst same
        refine left.turned.sound sound (fun record feed named found => ?_) after.writable holds
        rw [nextIndex, named, possible.2 feed found]
        exact nextName_mem _ _
      · exact sound record (holds_other confined same holds)

/-- Whatever has been done to a store that was empty at its start, if there is room for a batch, all of
its records are at rest. A record whose job has had no feed with another id since there was none lists
at most two indices, and they are generations of that feed. -/
theorem records_at_rest (reached : r.Leads r.InRange .empty m)
    (holds : r.records.Holds m name record) :
    record.AtRest ∧ ∀ feedId m₀, r.Leads r.InRange .empty m₀ →
      m₀.document? r.records.index name = none → r.Leads (r.KeepsFeed name feedId) m₀ m →
        (∀ i ∈ record.indices,
          i ∈ generationNames (baseName r.config.rotation.dataIndexPrefix name feedId)) ∧
        record.indices.length ≤ 2 := by
  have orderly := reached.orderly created default roomy orderly_empty
  have rest := (orderly.sound name record holds).rest
  refine ⟨rest, fun feedId m₀ start absent leads => ?_⟩
  have listed := leads.listed created default roomy (start.orderly created default roomy orderly_empty)
    absent holds
  exact ⟨listed, (List.Nodup.subperm rest.nodup listed).length_le⟩

end

namespace Example

/-- Everything is answered as it always is. -/
def Same (q : Request) (a : q.Answer) : Prop := a = answer q

theorem roomy_runner : runner.Roomy := by
  unfold Roomy
  decide

theorem inRange_same : runner.InRange Same := by
  rintro _ rfl
  exact ⟨.whole ⟨120000, by decide⟩, by rfl⟩

/-- The store after a program. -/
def storeAfter (p : Program α) (m : Memory) : Memory :=
  (p.run (Moment.answeredBy answer) (.start m)).2.store

theorem leads_operation {r : Runner} {possible : ((q : Request) → q.Answer → Prop) → Prop}
    {m m' : Memory} {p : Program α} (answers : possible Same) (operates : r.Operates "job" p)
    (leads : r.Leads possible m m') : r.Leads possible m (storeAfter p m') :=
  have allowed (q : Request) : Same q (answer q) := rfl
  leads.tail (.operation answers operates (Moment.ends_answered allowed p (.start m')))

/-- The creation of a job whose batches are to be of that size. -/
def creation : Program Outcome :=
  (hoarder.createJob "job" ⟨1, .days, .epoch⟩).bind Run.outcome

/-- A job has been created, and nothing could be loaded. -/
def unloaded : Memory :=
  storeAfter ((runner.createJob "job" ⟨1, .days, .epoch⟩).bind Run.outcome)
    { Memory.empty with faults := { failingBulkWrites := ["job-1"] } }

/-- The job has been loaded, and then its first index cannot be removed. -/
def loaded : Memory :=
  { storeAfter ((runner.refreshJob "job").bind Run.outcome) { unloaded with faults := {} } with
    faults := { failingDeletion := ["job-1"] } }

/-- A tick has served the second index, and the deletion of the job has failed. -/
def undeleted : Memory :=
  storeAfter (runner.deleteJob "job") (storeAfter (runner.runJob "job").outcome loaded)

theorem leads_undeleted {possible : ((q : Request) → q.Answer → Prop) → Prop}
    (answers : possible Same) : runner.Leads possible .empty undeleted := by
  have unloaded : runner.Leads possible .empty unloaded :=
    leads_operation answers (.create _) (.single (.faults _ _))
  have loaded : runner.Leads possible .empty loaded :=
    (leads_operation answers .refresh (unloaded.tail (.faults _ {}))).tail (.faults _ _)
  exact leads_operation answers .delete (leads_operation answers .tick loaded)

theorem holds_undeleted : ∃ record, runner.records.Holds undeleted "job" record ∧
    record.indices = ["job-1", "job-2"] ∧ record.feedFields = ["ip", "seen"] := by
  have left : ((undeleted.document? ".threatintel-jobs" "job").bind fun stored =>
      (Job.Record.fromJson? (.ofValue stored.source)).map fun record =>
        (record.indices, record.feedFields)) = some (["job-1", "job-2"], ["ip", "seen"]) := by
    decide +kernel
  obtain ⟨stored, there, left⟩ := Option.bind_eq_some_iff.mp left
  obtain ⟨record, decoded, left⟩ := Option.map_eq_some_iff.mp left
  obtain ⟨indices, fields⟩ := Prod.mk.inj left
  exact ⟨record, ⟨stored, there, decoded⟩, indices, fields⟩

end Example

section

open Example

/-- A job that has failed to load, has been loaded, has been refreshed and could not be deleted is
at rest with both of its indices. -/
theorem records_at_rest_undeleted : ∃ record, runner.records.Holds undeleted "job" record ∧
    record.indices = ["job-1", "job-2"] ∧ record.AtRest ∧ record.indices.length ≤ 2 := by
  have created : Runner.create {} 0 = .ok runner := by rfl
  have keeps : runner.KeepsFeed "job" "job" Same := by
    refine ⟨inRange_same, fun other found => ?_⟩
    obtain rfl : other = feed := Option.some.inj (Except.ok.inj found)
    rfl
  obtain ⟨record, holds, indices, -⟩ := holds_undeleted
  obtain ⟨rest, listed⟩ := records_at_rest created rfl roomy_runner (leads_undeleted inRange_same)
    holds
  exact ⟨record, holds, indices, rest,
    (listed "job" .empty .refl rfl (leads_undeleted keeps)).2⟩

/-- There is no room for a batch of the greatest size that is accepted: the first load of a job is
aborted, and its record goes on saying that the job is being created. -/
theorem record_left_creating : ∃ record, Runner.create hoarding 0 = .ok hoarder ∧
    hoarder.Leads hoarder.InRange .empty (storeAfter creation .empty) ∧
      hoarder.records.Holds (storeAfter creation .empty) "job" record ∧
        record.state = .creating ∧ ¬record.AtRest := by
  have left : (((storeAfter creation .empty).document? ".threatintel-jobs" "job").bind fun stored =>
      (Job.Record.fromJson? (.ofValue stored.source)).map (·.state)) = some .creating := by
    decide +kernel
  obtain ⟨stored, there, left⟩ := Option.bind_eq_some_iff.mp left
  obtain ⟨record, decoded, state⟩ := Option.map_eq_some_iff.mp left
  refine ⟨record, by rfl, leads_operation inRange_same (.create _) .refl, ⟨stored, there, decoded⟩,
    state, fun rest => ?_⟩
  have settled := rest.state
  rw [state] at settled
  exact absurd settled (by decide)

end

end IndicatorFeeds.Runner

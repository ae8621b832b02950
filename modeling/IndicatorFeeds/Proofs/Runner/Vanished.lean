import IndicatorFeeds.Proofs.Runner.Listed
import IndicatorFeeds.Proofs.Runner.Reachable
import IndicatorFeeds.Proofs.Runner.Unaffected

/-!
The end of a job. As long as its feed keeps its id, a job has no indices but the two generations of
that feed, whatever has become of its operations; and a deletion that succeeds removes both, whether
the record still lists them or not.
-/

namespace IndicatorFeeds.Runner

open Store (Memory)
open Program Rotation

variable {r : Runner} {allows : (r : Request) → r.Answer → Prop} {name feedId : String}
  {m₀ m m' : Memory} {y : Moment}

/-- Answers of a catalog that has a feed for a job, always with the same id. -/
def Resolves (name feedId : String) (allows : (q : Request) → q.Answer → Prop) : Prop :=
  ∀ found, allows (.feedFor name) (.ok found) → found.map (·.feedId) = some feedId

/-- From one store to the next in the life of a job: an operation on it is carried to its end, or
anything else happens that is not about its record. -/
inductive Lives (r : Runner) (name feedId : String) : Memory → Memory → Prop where
  | elsewhere {m m' : Memory}
      (same : m'.document? r.records.index name = m.document? r.records.index name) :
      Lives r name feedId m m'
  | operation {m : Memory} {allows : (q : Request) → q.Answer → Prop} {α : Type} {p : Program α}
      {result : Except Failure α} {y : Moment} (resolves : Resolves name feedId allows)
      (operates : r.Operates name p)
      (ended : Ends (Moment.surroundings allows) p (.start m) result y) :
      Lives r name feedId m y.store

/-- From one store to a later one in the life of a job. -/
abbrev Life (r : Runner) (name feedId : String) : Memory → Memory → Prop :=
  Relation.ReflTransGen (r.Lives name feedId)

/-- The indices that a job has had from one store to another: those that its record has listed in
between, and those that have come into being while there was an operation on it. -/
inductive Had (r : Runner) (name feedId : String) (m₀ m : Memory) (i : String) : Prop where
  | listed {m₁ : Memory} {record : Job.Record} (before : r.Life name feedId m₀ m₁)
      (holds : r.records.Holds m₁ name record) (member : i ∈ record.indices)
      (after : r.Life name feedId m₁ m) : Had r name feedId m₀ m i
  | made {m₁ : Memory} {allows : (q : Request) → q.Answer → Prop} {α : Type} {p q q' : Program α}
      {x x' y : Moment} {result : Except Failure α} (before : r.Life name feedId m₀ m₁)
      (resolves : Resolves name feedId allows) (operates : r.Operates name p)
      (reached : Reaches (Moment.surroundings allows) p (.start m₁) q x)
      (missing : x.store.indices.find? i = none)
      (later : Reaches (Moment.surroundings allows) q x q' x')
      (there : x'.store.indices.find? i ≠ none)
      (ended : Ends (Moment.surroundings allows) q' x' result y)
      (after : r.Life name feedId y.store m) : Had r name feedId m₀ m i

/-- Nothing is left of a job: neither its record nor its lease, nor any of these indices. -/
structure Vanished (r : Runner) (name : String) (own : String → Prop) (m : Memory) : Prop where
  record : m.document? r.records.index name = none
  lease : m.document? r.leases.index name = none
  indices : ∀ i, own i → m.indices.find? i = none

section

variable {config : Config.EngineConfig} {service : Nat}
  (created : Runner.create config service = .ok r) (default : config.store = {})

include created default

private theorem footprint_of_lists (lists : r.Lists (· ∈ r.config.generations name feedId) name m)
    (resolves : Resolves name feedId allows) :
    r.Footprint allows name (· ∈ r.config.generations name feedId) m := by
  have data : r.Lists (fun i => r.IsData i ∧ i ∈ r.config.generations name feedId) name m :=
    lists.mono fun _ member => ⟨isData_of_default created default member, member⟩
  refine data.footprint created default fun found answer i member => ?_
  rw [resolves found answer] at member
  exact member

private theorem Lives.lists (lives : r.Lives name feedId m m')
    (lists : r.Lists (· ∈ r.config.generations name feedId) name m) :
    r.Lists (· ∈ r.config.generations name feedId) name m' := by
  cases lives with
  | elsewhere same => exact lists.of_document? same
  | operation resolves operates ended =>
    have footprint := footprint_of_lists created default lists resolves
    have confined := Confined.of_moves ((footprint.along_operates operates).reached ended).2
    refine lists.recorded (fun feed found i member => ?_) confined.recorded
    obtain rfl := Option.some.inj (resolves (some feed) found)
    exact member

/-- The record of a job lists nothing but its generations, as long as its feed keeps its id. -/
private theorem Life.lists (life : r.Life name feedId m₀ m)
    (lists : r.Lists (· ∈ r.config.generations name feedId) name m₀) :
    r.Lists (· ∈ r.config.generations name feedId) name m := by
  induction life with
  | refl => exact lists
  | tail _ lives ih => exact lives.lists created default ih

/-- A job has no index but its generations, as long as its feed keeps its id. -/
private theorem Had.generation {i : String} (had : r.Had name feedId m₀ m i) (data : r.IsData i)
    (lists : r.Lists (· ∈ r.config.generations name feedId) name m₀) :
    i ∈ r.config.generations name feedId := by
  cases had with
  | listed before holds member after =>
    exact (before.lists created default lists _ holds).listed i member
  | made before resolves operates reached missing later there ended after =>
    have lists := before.lists created default lists
    have footprint := footprint_of_lists created default lists resolves
    have rest := ((footprint.along_operates operates).reached reached).1
    have confined := Confined.of_moves (rest.reached later).2
    by_contra spared
    exact there ((confined.data i data spared).trans missing)

/-- However the operations on a job have ended, nothing is left of it after a deletion that succeeds:
no index that its record has listed, no generation that a rotation has begun and given up, no lease
and no record. The records of other jobs and all other indices are as they were. -/
theorem nothing_outlives_deletion (lists : r.Lists (· ∈ r.config.generations name feedId) name m₀)
    (life : r.Life name feedId m₀ m) (resolves : Resolves name feedId allows)
    (answers : ∀ e, ¬allows (.feedFor name) (.error e))
    (ended : Ends (Moment.surroundings allows) (r.deleteJob name) (.start m) (.ok ()) y) :
    r.Vanished name (fun i => i ∈ r.config.generations name feedId ∨
      r.IsData i ∧ r.Had name feedId m₀ m i) y.store ∧
    r.Unaffected name (· ∈ r.config.generations name feedId) m y.store := by
  have listed := life.lists created default lists
  have along := along_deleteJob (footprint_of_lists created default listed resolves)
  have confined := Confined.of_moves (along.reached ended).2
  refine ⟨?_, confined.unaffected⟩
  obtain ⟨deleted, free⟩ := along.ended ended
  cases deleted with
  | @done record indices holds belong _ removed gone =>
    obtain ⟨named, -⟩ := listed record holds
    have generations : ∀ i ∈ r.config.generations name feedId, y.store.indices.find? i = none := by
      intro i member
      obtain ⟨answer, allowed, inside⟩ := belong.named
      rw [named] at allowed inside
      cases answer with
      | error e => exact absurd allowed (answers e)
      | ok found =>
        have inside := inside found rfl i
        rw [resolves found allowed] at inside
        exact (removed i (isData_of_default created default member)).trans (if_pos (inside member))
    refine ⟨gone, free, fun i own => ?_⟩
    rcases own with member | ⟨data, had⟩
    · exact generations i member
    · exact generations i (had.generation created default data lists)

end

section

open Example

/-- A job whose first generation could not be loaded has been deleted. -/
private def unloadedEnd : Moment :=
  ((runner.deleteJob "job").run (Moment.answeredBy answer) (.start unloaded)).2

private theorem same_answer (q : Request) : Same q (answer q) := rfl

private theorem resolves_same : Resolves "job" "job" Same := by
  intro found answer
  obtain rfl := Except.ok.inj answer
  rfl

private def failing : Memory := { Memory.empty with faults := { failingBulkWrites := ["job-1"] } }

/-- The record of a job lists nothing after a failed load, but the generation that it has made is
there; it is removed with the job. -/
theorem nothing_outlives_deletion_unloaded :
    (∃ record, runner.records.Holds unloaded "job" record ∧ record.indices = []) ∧
      runner.Had "job" "job" .empty unloaded "job-1" ∧ unloaded.indices.find? "job-1" ≠ none ∧
      unloadedEnd.store.indices.find? "job-1" = none ∧
      unloadedEnd.store.document? ".threatintel-jobs" "job" = none := by
  have created : Runner.create {} 0 = .ok runner := by rfl
  have left : (unloaded.indices.find? "job-1").isSome = true ∧
      ((unloaded.document? ".threatintel-jobs" "job").bind fun stored =>
        (Job.Record.fromJson? (.ofValue stored.source)).map (·.indices)) = some [] ∧
      ((runner.deleteJob "job").run (Moment.answeredBy answer) (.start unloaded)).1.toOption =
        some () := by decide +kernel
  obtain ⟨there, listed, deleted⟩ := left
  obtain ⟨stored, present, listed⟩ := Option.bind_eq_some_iff.mp listed
  obtain ⟨record, decoded, listed⟩ := Option.map_eq_some_iff.mp listed
  have there := Option.isSome_iff_ne_none.mp there
  have faulty : runner.Life "job" "job" .empty failing := .single (.elsewhere rfl)
  have create := Moment.ends_answered same_answer
    ((runner.createJob "job" ⟨1, .days, .epoch⟩).bind Run.outcome) (.start failing)
  have had : runner.Had "job" "job" .empty unloaded "job-1" :=
    .made faulty resolves_same (.create _) .here rfl create there .here .refl
  have life : runner.Life "job" "job" .empty unloaded :=
    faulty.tail (.operation resolves_same (.create _) create)
  have ended : Ends (Moment.surroundings Same) (runner.deleteJob "job") (.start unloaded) (.ok ())
      unloadedEnd := Moment.ends_answeredBy same_answer _ (.start unloaded) deleted
  have data : runner.IsData "job-1" := by
    unfold IsData
    decide +kernel
  obtain ⟨vanished, -⟩ := nothing_outlives_deletion created rfl lists_empty life resolves_same nofun ended
  exact ⟨⟨record, ⟨stored, present, decoded⟩, listed⟩, had, there,
    vanished.indices _ (.inr ⟨data, had⟩), vanished.record⟩

end

end IndicatorFeeds.Runner

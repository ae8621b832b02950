import IndicatorFeeds.Proofs.Rotation.Names
import IndicatorFeeds.Proofs.Rotation.Visibility
import IndicatorFeeds.Proofs.Runner.Operations

/-!
Jobs beside each other. What an operation on a job may change is known by the names of its
generations, so it leaves another job alone whose generations have other names. Nothing keeps two
jobs from having generations of the same names, and then one of them removes what the other serves.
-/

namespace IndicatorFeeds

open Store (Memory)
open Program Rotation

namespace Config.EngineConfig

variable {config : EngineConfig} {job feedId other feedId' : String}

/-- The names of both generations of a job with this feed. -/
def generations (config : EngineConfig) (job feedId : String) : List String :=
  generationNames (baseName config.rotation.dataIndexPrefix job feedId)

/-- The generations of two jobs have four names, and none of them is one of the engine's own. -/
structure Apart (config : EngineConfig) (job feedId other feedId' : String) : Prop where
  nodup : (config.generations job feedId ++ config.generations other feedId').Nodup
  data : ∀ i ∈ config.generations job feedId ++ config.generations other feedId',
    i ≠ config.store.jobs ∧ i ≠ config.store.leases

/-- An index of the engine's own has the name of a generation: what the names of the job's generations
start with, and the number of one. -/
def Shadowed (config : EngineConfig) (job feedId : String) : Prop :=
  ∃ i ∈ [config.store.jobs, config.store.leases], ∃ number ∈ [firstSuffix, secondSuffix],
    i = config.rotation.dataIndexPrefix ++ (job ++ feedPart job feedId) ++ number

private theorem not_shadowed_iff :
    ¬config.Shadowed job feedId ↔
      ∀ i ∈ config.generations job feedId, i ≠ config.store.jobs ∧ i ≠ config.store.leases := by
  unfold Shadowed generations
  rw [baseName_eq]
  simp only [generationNames, List.mem_cons, List.not_mem_nil, or_false, forall_eq_or_imp,
    forall_eq, exists_eq_or_imp, exists_eq_left, not_or]
  grind

/-- Two jobs are kept apart just if neither is joined to the other, and neither is shadowed. -/
theorem apart_iff (different : job ≠ other) :
    config.Apart job feedId other feedId' ↔
      ¬Joined job feedId other feedId' ∧ ¬Joined other feedId' job feedId ∧
        ¬config.Shadowed job feedId ∧ ¬config.Shadowed other feedId' := by
  have names : (config.generations job feedId ++ config.generations other feedId').Nodup ↔
      ¬Joined job feedId other feedId' ∧ ¬Joined other feedId' job feedId := by
    rw [generations, generations, nodup_generationNames_iff, ne_eq, baseName_eq_iff different, not_or]
  rw [not_shadowed_iff, not_shadowed_iff, ← and_assoc, ← names, ← List.forall_mem_append]
  exact ⟨fun ⟨nodup, data⟩ => ⟨nodup, data⟩, fun ⟨nodup, data⟩ => ⟨nodup, data⟩⟩

end Config.EngineConfig

namespace Runner

variable {r : Runner} {allows : (r : Request) → r.Answer → Prop} {job feedId other feedId' : String}
  {m m' : Memory}

/-- A job keeps to one feed: its record is kept under its name and lists generations of that feed
only, and the catalog has no other feed for it. -/
structure KeepsTo (r : Runner) (allows : (r : Request) → r.Answer → Prop) (m : Memory)
    (job feedId : String) : Prop where
  named : ∀ record, r.records.Holds m job record → record.name = job
  listed : ∀ record, r.records.Holds m job record →
    ∀ i ∈ record.indices, i ∈ r.config.generations job feedId
  found : ∀ found, allows (.feedFor job) (.ok found) → found.map (·.feedId) = some feedId

/-- Between two stores nothing has changed that is not a job's: these indices are as they were, and
the engine's own are still there with all that they have of other jobs. -/
structure Spared (r : Runner) (job : String) (indices : List String) (m m' : Memory) : Prop where
  indices : ∀ i ∈ indices, m'.indices.find? i = m.indices.find? i
  present : ∀ i ∈ [r.records.index, r.leases.index], m.indices.contains i = true →
    m'.indices.contains i = true
  documents : ∀ i ∈ [r.records.index, r.leases.index], ∀ id, id ≠ job →
    m'.document? i id = m.document? i id

private theorem KeepsTo.footprint {config : Config.EngineConfig} {service : Nat}
    (created : Runner.create config service = .ok r) (keeps : r.KeepsTo allows m job feedId)
    (apart : config.Apart job feedId other feedId') :
    r.Footprint allows job (· ∈ config.generations job feedId) m := by
  obtain ⟨-, rfl, leases, records⟩ := eq_of_create created
  have own {i : String} (named : i ∈ r.config.generations job feedId) :
      r.IsData i ∧ i ∈ r.config.generations job feedId := by
    obtain ⟨job, lease⟩ := apart.data i (List.mem_append_left _ named)
    exact ⟨⟨leases ▸ lease, records ▸ job⟩, named⟩
  refine ⟨apart_of_create created, keeps.named,
    fun record holds i member => own (keeps.listed record holds i member), ?_⟩
  intro found answer i named
  rw [keeps.found found answer, Option.getD_some] at named
  exact own named

/-- What is confined to the generations of a job spares those of another that is apart from it. -/
private theorem Confined.spared {config : Config.EngineConfig} {service : Nat} {x y : Moment}
    {writes : Option Job.Record → Prop}
    (confined : r.Confined job (· ∈ config.generations job feedId) writes x y)
    (created : Runner.create config service = .ok r)
    (apart : config.Apart job feedId other feedId') :
    r.Spared job (config.generations other feedId') x.store y.store := by
  obtain ⟨-, -, leases, records⟩ := eq_of_create created
  have system {i : String} (own : i ∈ [r.records.index, r.leases.index]) : ¬r.IsData i := by
    rintro ⟨lease, record⟩
    simp [lease, record] at own
  refine ⟨fun i named => ?_, fun i own => confined.present (system own),
    fun i own id => confined.documents i id (system own)⟩
  obtain ⟨job, lease⟩ := apart.data i (List.mem_append_right _ named)
  exact confined.data i ⟨leases ▸ lease, records ▸ job⟩ fun shared =>
    (List.nodup_append.mp apart.nodup).2.2 i shared i named rfl

/-- Two jobs are kept apart just if neither is joined to the other and no index of the engine's own
has the name of a generation; and then no operation on the one job, from its start to its end, touches
what is the other's or the engine's. -/
theorem jobs_apart_iff {config : Config.EngineConfig} {service : Nat}
    (created : Runner.create config service = .ok r) (different : job ≠ other) :
    (config.Apart job feedId other feedId' ↔
      ¬Joined job feedId other feedId' ∧ ¬Joined other feedId' job feedId ∧
        ¬config.Shadowed job feedId ∧ ¬config.Shadowed other feedId') ∧
    (config.Apart job feedId other feedId' →
      ∀ {α : Type} {p q : Program α} {m : Memory} {y : Moment}
        {allows : (r : Request) → r.Answer → Prop}, r.KeepsTo allows m job feedId →
        r.Operates job p → Reaches (Moment.surroundings allows) p (.start m) q y →
          r.Spared job (config.generations other feedId') m y.store) := by
  refine ⟨Config.EngineConfig.apart_iff different, fun apart => ?_⟩
  intro α p q m y allows keeps operates reached
  have moves := (((keeps.footprint created apart).along_operates operates).reached reached).2
  exact (Confined.of_moves moves).spared created apart

section

open Example

/-- A store with a job and an index of another, whose name begins like the job's. -/
private def neighbours : Memory := served.write "job-b-list-1" "x" (.string "other")

private def ticked : Moment :=
  ((runner.runJob "job").outcome.run (Moment.answeredBy answer) (.start neighbours)).2

private theorem keepsTo_neighbours : runner.KeepsTo (answers feed reply) neighbours "job" "job" := by
  have stored : runner.records.Holds neighbours "job" available :=
    ⟨_, by rfl, Job.Record.fromJson?_toJson available⟩
  refine ⟨fun record holds => ?_, fun record holds => ?_, fun found answer => ?_⟩
  · obtain rfl := holds.unique stored
    rfl
  · obtain rfl := holds.unique stored
    decide +kernel
  · obtain rfl := Except.ok.inj answer
    rfl

/-- A tick of the one job has removed its first index and leaves the other job's as it is. -/
theorem jobs_apart_tick : ticked.store.indices.find? "job-1" = none ∧
    runner.Spared "job" ["job-b-list-1", "job-b-list-2"] neighbours ticked.store := by
  have created : Runner.create {} 0 = .ok runner := by rfl
  have different : "job" ≠ "job-b" := by decide
  have left : ((runner.runJob "job").outcome.run (Moment.answeredBy answer)
      (.start neighbours)).1.toOption = some (.refreshed "job-2") ∧
        (ticked.store.indices.find? "job-1").isNone = true := by decide +kernel
  have ended : Ends (Moment.surroundings (answers feed reply)) (runner.runJob "job").outcome
      (.start neighbours) (.ok (.refreshed "job-2")) ticked :=
    Moment.ends_answeredBy answer_allowed _ (.start neighbours) left.1
  obtain ⟨apart, spared⟩ := @jobs_apart_iff runner "job" "job" "job-b" "list" {} 0 created different
  have names : Config.EngineConfig.generations {} "job-b" "list" =
      ["job-b-list-1", "job-b-list-2"] := by decide +kernel
  refine ⟨Option.isNone_iff_eq_none.mp left.2, names ▸ spared (apart.mpr ⟨?_, ?_, ?_, ?_⟩)
    keepsTo_neighbours .tick ended⟩
  · rintro ⟨-, -, own, -⟩
    exact own rfl
  · rintro ⟨rest, longer, -⟩
    have start := congrArg (fun name => name.toList.take 4) longer
    simp at start
  · unfold Config.EngineConfig.Shadowed
    decide +kernel
  · unfold Config.EngineConfig.Shadowed
    decide +kernel

/-- The catalog has a feed `b` for the job `a`, and for every other job a feed of its name. -/
private def catalog : (q : Request) → q.Answer
  | .feedFor job => .ok (some { feed with feedId := if job = "a" then "b" else job })
  | q => answer q

private def Listed (q : Request) (a : q.Answer) : Prop := a = catalog q

private def afterCatalog (p : Program α) (m : Memory) : Moment :=
  (p.run (Moment.answeredBy catalog) (.start m)).2

private def newJob (name : String) (m : Memory) : Memory :=
  (afterCatalog ((runner.createJob name ⟨1, .days, .epoch⟩).bind Run.outcome) m).store

/-- The job `a` has been made, and then the job `a-b`. -/
private def shared : Memory := newJob "a-b" (newJob "a" .empty)

private def unshared : Moment := afterCatalog (runner.deleteJob "a") shared

private def recordOf (m : Memory) : Option Job.Record :=
  (m.document? ".threatintel-jobs" "a-b").bind fun stored =>
    Job.Record.fromJson? (.ofValue stored.source)

private theorem holds_recordOf {m : Memory} {record : Job.Record} (there : recordOf m = some record) :
    runner.records.Holds m "a-b" record :=
  Option.bind_eq_some_iff.mp there

/-- The names of two jobs may be fit for jobs and their generations not be apart: the deletion of the
one job removes what the other goes on serving. -/
theorem jobs_collide :
    Job.isName "a" = true ∧ Job.isName "a-b" = true ∧
      ¬(Config.EngineConfig.Apart {} "a" "b" "a-b" "a-b") ∧
      Ends (Moment.surroundings Listed) (runner.deleteJob "a") (.start shared) (.ok ()) unshared ∧
      shared.indices.find? "a-b-1" ≠ none ∧ unshared.store.indices.find? "a-b-1" = none ∧
      ∃ record, runner.records.Holds shared "a-b" record ∧
        runner.records.Holds unshared.store "a-b" record ∧ record.state = .available ∧
          record.currentIndex = some "a-b-1" := by
  have named : Job.isName "a" = true ∧ Job.isName "a-b" = true := by decide +kernel
  have left : (shared.indices.find? "a-b-1").isSome = true ∧
      (unshared.store.indices.find? "a-b-1").isNone = true ∧
      recordOf unshared.store = recordOf shared ∧
      (recordOf shared).map (fun record => (record.state, record.currentIndex)) =
        some (.available, some "a-b-1") ∧
      ((runner.deleteJob "a").run (Moment.answeredBy catalog) (.start shared)).1.toOption =
        some () := by decide +kernel
  obtain ⟨present, gone, kept, serves, done⟩ := left
  have listed (q : Request) : Listed q (catalog q) := rfl
  have ended : Ends (Moment.surroundings Listed) (runner.deleteJob "a") (.start shared) (.ok ())
      unshared := Moment.ends_answeredBy listed _ (.start shared) done
  obtain ⟨record, there, serves⟩ := Option.map_eq_some_iff.mp serves
  obtain ⟨state, current⟩ := Prod.mk.inj serves
  refine ⟨named.1, named.2, fun apart => ?_, ended, Option.isSome_iff_ne_none.mp present,
    Option.isNone_iff_eq_none.mp gone, record, holds_recordOf there,
    holds_recordOf (kept.trans there), state, current⟩
  have nodup := apart.nodup
  revert nodup
  decide +kernel

end

end Runner

end IndicatorFeeds

import IndicatorFeeds.Proofs.Runner.Apart

namespace IndicatorFeeds.Runner

open Store (Memory)
open Program Rotation

variable {r : Runner} {allows : (r : Request) → r.Answer → Prop} {name : String}
  {own : String → Prop} {m m' : Memory} {x y : Moment}

/-- The indices that belong to a job when an operation on it begins: those that its record lists,
and the generations of its feed. A deletion takes a feed that the catalog does not have for one with
the name of the job. -/
inductive Owned (r : Runner) (allows : (r : Request) → r.Answer → Prop) (name : String)
    (m : Memory) : {α : Type} → Program α → String → Prop where
  | listed {α : Type} {p : Program α} {record : Job.Record} {i : String}
      (holds : r.records.Holds m name record) (member : i ∈ record.indices) :
      Owned r allows name m p i
  | named {α : Type} {p : Program α} {feed : Feed.Metadata} {i : String}
      (found : allows (.feedFor name) (.ok (some feed)))
      (member : i ∈ r.config.generations name feed.feedId) : Owned r allows name m p i
  | unlisted {i : String} (missing : allows (.feedFor name) (.ok none))
      (member : i ∈ r.config.generations name name) :
      Owned r allows name m (r.deleteJob name) i

/-- Between two stores nothing has changed but indices of data that are the job's own, its record and
its lease; an index of the engine's own may have been made where there was none. -/
structure Unaffected (r : Runner) (name : String) (own : String → Prop) (m m' : Memory) : Prop where
  faults : m'.faults = m.faults
  data : ∀ i, r.IsData i → ¬own i → m'.indices.find? i = m.indices.find? i
  documents : ∀ i ∈ [r.records.index, r.leases.index], ∀ id, id ≠ name →
    m'.document? i id = m.document? i id
  flags : ∀ i ∈ [r.records.index, r.leases.index], ∀ flags,
    m.flags? i = some flags → m'.flags? i = some flags

/-- What is confined to a job leaves everything else unaffected. -/
theorem Confined.unaffected {writes : Option Job.Record → Prop}
    (confined : r.Confined name own writes x y) : r.Unaffected name own x.store y.store := by
  have system {i : String} (engine : i ∈ [r.records.index, r.leases.index]) : ¬r.IsData i := by
    rintro ⟨lease, record⟩
    simp [lease, record] at engine
  constructor
  · exact confined.faults
  · exact confined.data
  · exact fun i engine id other => confined.documents i id (system engine) other
  · exact fun i engine => confined.flags i (system engine)

section

variable {p q : Program α} (apart : r.leases.index ≠ r.records.index)
  (named : ∀ record, r.records.Holds m name record → record.name = name)

include apart named

private theorem extent_of_owned (data : ∀ i, r.Owned allows name m p i → r.IsData i) :
    r.Extent allows name (r.Owned allows name m p) m where
  apart := apart
  named := named
  listed := by
    intro record holds i member
    have owned : r.Owned allows name m p i := .listed holds member
    exact ⟨data i owned, owned⟩
  names := by
    intro feed found i member
    have owned : r.Owned allows name m p i := .named found member
    exact ⟨data i owned, owned⟩

private theorem footprint_of_owned
    (data : ∀ i, r.Owned allows name m (r.deleteJob name) i → r.IsData i) :
    r.Footprint allows name (r.Owned allows name m (r.deleteJob name)) m := by
  have extent := extent_of_owned apart named data
  refine ⟨extent.apart, extent.named, extent.listed, fun found answer i member => ?_⟩
  cases found with
  | some feed => exact extent.names feed answer i member
  | none =>
    have owned : r.Owned allows name m (r.deleteJob name) i := .unlisted answer member
    exact ⟨data i owned, owned⟩

/-- Every move of an operation is confined to what belongs to its job. -/
private theorem along_owned (operates : r.Operates name p)
    (data : ∀ i, r.Owned allows name m p i → r.IsData i) :
    Along (Moment.surroundings allows) Eq
      (r.Confined name (r.Owned allows name m p) fun _ => True) (fun _ _ => True) p (.start m) := by
  have forget {own : String → Prop} {writes : Option Job.Record → Prop} (x y : Moment)
      (confined : r.Confined name own writes x y) : r.Confined name own (fun _ => True) x y :=
    confined.mono (fun _ => id) fun _ _ => trivial
  have extent := extent_of_owned apart named data
  cases operates with
  | create schedule =>
    exact (extent.along_create schedule).mono (fun _ _ => id) forget fun _ _ _ => trivial
  | refresh => exact extent.along_refresh.mono (fun _ _ => id) forget fun _ _ _ => trivial
  | scheduled => exact extent.along_runScheduled.mono (fun _ _ => id) forget fun _ _ _ => trivial
  | tick => exact extent.along_tick.mono (fun _ _ => id) forget fun _ _ _ => trivial
  | update update =>
    exact (extent.along_update update).mono (fun _ _ => id) forget fun _ _ _ => trivial
  | delete =>
    have footprint := footprint_of_owned apart named data
    exact (along_deleteJob footprint).mono (fun _ _ => id) forget fun _ _ _ => trivial

end

/-- An operation on a job leaves every index of data as it is that does not belong to the job, and
every record and lease of another job. The indices of records and of leases are not removed by it, and
keep their settings. So it is at every point that the operation comes to, and when it has ended. -/
theorem operation_unaffected {config : Config.EngineConfig} {service : Nat} {p q : Program α}
    (created : Runner.create config service = .ok r) (operates : r.Operates name p)
    (named : ∀ record, r.records.Holds m name record → record.name = name)
    (data : ∀ i, r.Owned allows name m p i → r.IsData i)
    (reached : Reaches (Moment.surroundings allows) p (.start m) q y) :
    r.Unaffected name (r.Owned allows name m p) m y.store := by
  have along := along_owned (apart_of_create created) named operates data
  exact (Confined.of_moves (along.reached reached).2).unaffected

section

open Example

/-- The store of a job with an index and the record of another. -/
private def crowded : Memory :=
  (served.write "job-b-list-1" "x" (.string "other")).write ".threatintel-jobs" "job-b"
    { available with name := "job-b", indices := ["job-b-list-1"] }.toJson

private def crowdedEnd : Moment :=
  ((runner.deleteJob "job").run (Moment.answeredBy answer) (.start crowded)).2

private theorem holds_crowded : runner.records.Holds crowded "job" available :=
  ⟨_, by rfl, Job.Record.fromJson?_toJson available⟩

private theorem isData_of_owned {p : Program α} {i : String}
    (owned : runner.Owned (answers feed reply) "job" crowded p i) : runner.IsData i := by
  cases owned with
  | listed holds member =>
    obtain rfl := holds.unique holds_crowded
    exact available_data i member
  | named found member => exact generations_data _ found i member
  | unlisted missing => cases Except.ok.inj missing

/-- The deletion of a job removes its index, and leaves the record and the index of the other. -/
theorem operation_unaffected_deletion :
    crowdedEnd.store.indices.find? "job-1" = none ∧
      crowdedEnd.store.document? ".threatintel-jobs" "job" = none ∧
      crowdedEnd.store.document? ".threatintel-jobs" "job-b" =
        crowded.document? ".threatintel-jobs" "job-b" ∧
      runner.Unaffected "job"
        (runner.Owned (answers feed reply) "job" crowded (runner.deleteJob "job")) crowded
          crowdedEnd.store := by
  have created : Runner.create {} 0 = .ok runner := by rfl
  have left : ((runner.deleteJob "job").run (Moment.answeredBy answer)
        (.start crowded)).1.toOption = some () ∧
      (crowdedEnd.store.indices.find? "job-1").isNone = true ∧
      (crowdedEnd.store.document? ".threatintel-jobs" "job").isNone = true := by decide +kernel
  obtain ⟨done, gone, removed⟩ := left
  have ended : Ends (Moment.surroundings (answers feed reply)) (runner.deleteJob "job")
      (.start crowded) (.ok ()) crowdedEnd :=
    Moment.ends_answeredBy answer_allowed _ (.start crowded) done
  have named : ∀ record, runner.records.Holds crowded "job" record → record.name = "job" := by
    intro record holds
    obtain rfl := holds.unique holds_crowded
    rfl
  have unaffected := operation_unaffected created .delete named
    (fun _ owned => isData_of_owned owned) ended
  exact ⟨Option.isNone_iff_eq_none.mp gone, Option.isNone_iff_eq_none.mp removed,
    unaffected.documents _ (List.mem_cons_self ..) "job-b" (by decide), unaffected⟩

end

end IndicatorFeeds.Runner

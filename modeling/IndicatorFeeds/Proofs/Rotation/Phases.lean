import IndicatorFeeds.Proofs.Rotation.Stages

namespace IndicatorFeeds.Runner

open Program Rotation

variable {r : Runner} {allows : (r : Request) → r.Answer → Prop} {record : Job.Record}
  {own : Moment → Moment → Prop} {x : Moment × Lease}

/-- Moves that every run makes: none, and a renewal of its lease. -/
structure Moves (r : Runner) (own : Moment → Moment → Prop) : Prop where
  still : ∀ x, own x x
  renews : ∀ x y, r.leases.Renewed x y → own x.1 y.1

theorem Moves.all (r : Runner) : r.Moves fun _ _ => True :=
  ⟨fun _ => trivial, fun _ _ _ => trivial⟩

/-- What holds along a rotation of a record whose moves are some: before its generation is served,
from then on, and when it has failed. -/
structure Phases (r : Runner) (allows : (r : Request) → r.Answer → Prop)
    (own : Moment → Moment → Prop) (record : Job.Record) extends r.Moves own where
  before : Moment × Lease → Prop
  after : Feed.Metadata → Moment × Lease → Prop
  failed : Moment × Lease → Prop
  /-- What is done to the next index changes nothing yet. -/
  builds : ∀ feed request x a y, allows (.feedFor record.name) (.ok (some feed)) →
    request.Touches (r.nextIndex record feed) → before x → r.held allows request x a y → before y
  waits : ∀ x y, before x → before y → own x.1 y.1
  /-- Nor does a write of the record that serves what it has served. -/
  saves : ∀ record' x y, record'.name = record.name → record'.currentIndex = record.currentIndex →
    before x → r.Saved record' x y → own x.1 y.1 ∧ before y ∧ failed y
  refused : ∀ x, before x → x.1.store.isBlocked r.records.index = true → failed x
  /-- A write of the record that serves a generation puts it before the readers. -/
  swaps : ∀ feed record' x y reader timestamp, allows (.feedFor record.name) (.ok (some feed)) →
    record'.name = record.name → record'.currentIndex = some (r.nextIndex record feed) →
    r.Reads allows feed reader → reader.failure = none → r.Roomy →
    r.Serves (r.nextIndex record feed) (feedDocuments feed timestamp reader.rows) x →
    before x → r.Saved record' x y → own x.1 y.1 ∧ after feed y
  /-- What is removed then is not served any more. -/
  removes : ∀ feed stale x a y, stale ∈ record.indices → stale ≠ r.nextIndex record feed →
    after feed x → r.held allows (.store (.deleteIndex stale)) x a y → own x.1 y.1 ∧ after feed y
  tidies : ∀ feed record' x y, record'.name = record.name →
    record'.currentIndex = some (r.nextIndex record feed) →
    after feed x → r.Saved record' x y → own x.1 y.1 ∧ after feed y

namespace Phases

/-- Until the generation is served it is all the same how far the rotation has come, and which
record serves it makes no difference. -/
private def stages (phases : r.Phases allows own record) (failureState : Job.State) :
    r.Stages allows (fun x y => own x.1 y.1) record failureState where
  still := fun x => phases.still x.1
  renews := phases.renews
  before := phases.before
  renewed := fun feed x y found renewal before =>
    phases.builds feed .renewLease x () y found (fun _ _ => trivial) before renewal
  marks := fun now x y _ before saved =>
    let ⟨moved, before, _⟩ := phases.saves ({ record with state := inProgress record }.writtenAt now)
      x y rfl rfl before saved
    ⟨moved, before⟩
  building := fun _ => phases.before
  begins := fun _ _ _ _ _ _ => id
  builds := fun feed request x a y found touches before answered =>
    have after := phases.builds feed request x a y found touches before answered
    ⟨phases.waits x y before after, after⟩
  after := fun feed served x => served.name = record.name ∧ phases.after feed x
  swaps := by
    intro feed reader generation millis succeeded enabled now timestamp x y found reads _ whole roomy
      index _ _ _ _ serves before saved
    have named := served_name record generation millis succeeded enabled
    have current : ((swapped record generation millis succeeded).enable enabled).currentIndex =
        some (r.nextIndex record feed) := by
      rw [Job.Record.currentIndex, served_indices, List.getLast?_concat, index]
    obtain ⟨moved, after⟩ := phases.swaps feed
      (((swapped record generation millis succeeded).enable enabled).writtenAt now) x y reader
      timestamp found named current reads whole roomy serves before saved
    exact ⟨moved, named, after⟩
  removes := by
    rintro feed served index x a y listed ⟨named, after⟩ answered
    obtain ⟨member, other⟩ := List.mem_filter.mp listed
    obtain ⟨moved, after⟩ := phases.removes feed index x a y member (by simpa using other) after
      answered
    exact ⟨moved, named, after⟩
  finished := phases.after
  clean := fun _ _ _ _ after => after.2
  tidies := by
    rintro feed served kept now x y _ _ _ ⟨named, after⟩ saved
    let tidied := { served with indices := kept ++ [r.nextIndex record feed] }.writtenAt now
    have current : tidied.currentIndex = some (r.nextIndex record feed) := List.getLast?_concat
    exact phases.tidies feed tidied x y named current after saved
  untidied := fun _ _ _ _ after => after.2
  broken := fun _ => phases.before
  unfit := fun _ _ _ => id
  hindered := fun _ _ _ _ _ => id
  failed := fun _ => phases.failed
  fails := by
    intro e now later x y _ _ before saved
    have current : (afterFailure record failureState now).currentIndex = record.currentIndex := by
      rw [Job.Record.currentIndex, afterFailure_indices, Job.Record.currentIndex]
    obtain ⟨moved, -, failed⟩ := phases.saves ((afterFailure record failureState now).writtenAt later)
      x y (afterFailure_name record failureState now) current before saved
    exact ⟨moved, failed⟩
  unrecorded := fun _ x blocked before => phases.refused x before blocked
  unmarked := fun x blocked before => phases.refused x before blocked
  aborted := fun _ => True
  crowded := fun _ _ _ _ _ => trivial

/-- How a run ends that has rotated the data of a record. -/
def Ended (phases : r.Phases allows own record) : Except Failure Outcome → Moment × Lease → Prop
  | .ok (.refreshed index), y => ∃ feed, allows (.feedFor record.name) (.ok (some feed)) ∧
    index = r.nextIndex record feed ∧ phases.after feed y
  | .ok _, y => phases.failed y
  | .error (.error _), _ => False
  | .error (.fault _), _ => True

/-- A run that has the lease of its job ends with its generation served, or with what was served
before, or not at all. -/
theorem along_executeRotation (phases : r.Phases allows own record) (failureState : Job.State)
    (unwritten : r.Unwritten x) (start : phases.before x) :
    Along (r.held allows) Eq (fun x y => own x.1 y.1) phases.Ended
      (r.executeRotation record failureState) x := by
  have runs := (phases.stages failureState).along_executeRotation unwritten start
  refine runs.weaken fun result y ended => ?_
  match result with
  | .ok (.refreshed index) => exact ended
  | .ok (.failed reason) =>
    obtain ⟨e, -, failed⟩ := ended
    exact failed
  | .error (.fault _) => trivial

end Phases

end IndicatorFeeds.Runner

import IndicatorFeeds.Proofs.Rotation.Names
import IndicatorFeeds.Proofs.Rotation.Visibility
import IndicatorFeeds.Proofs.Runner.Operations

/-!
What a run leaves that has failed. Its record says that it has, and goes on serving what it has served;
and of the indices of data only the next one has been worked at, and that one only behind the gate: a
feed has been opened whose header has all the recorded fields. A run that is aborted, since there is no
room for a batch, does no more to the data, but its record goes on saying that the run is under way.
-/

namespace IndicatorFeeds

open Store (Memory MemoryIndex Call)
open Program Rotation

namespace Runner

variable {r : Runner} {allows : (r : Request) → r.Answer → Prop} {name : String}
  {record : Job.Record} {failureState : Job.State} {may : String → Prop} {m : Memory} {x y z : Moment}

/-- The index is the next one, with a feed of the job that passes the gate: its header has all the
recorded fields. -/
def Admitted (r : Runner) (allows : (r : Request) → r.Answer → Prop) (record : Job.Record)
    (i : String) : Prop :=
  ∃ feed reader, allows (.feedFor record.name) (.ok (some feed)) ∧ r.Reads allows feed reader ∧
    Feed.checkHeader record.feedFields reader.fields = .ok () ∧ i = r.nextIndex record feed

/-- Every index of data that may not change is as it is in a store, and nothing has been written to
it. -/
def Intact (r : Runner) (may : String → Prop) (m : Memory) (x : Moment) : Prop :=
  ∀ i, r.IsData i → ¬may i → x.At i (m.indices.find? i) []

/-- The stored record serves what a record serves. -/
def Stays (r : Runner) (record : Job.Record) (m : Memory) : Prop :=
  ∃ record', r.records.Holds m record.name record' ∧ record'.currentIndex = record.currentIndex

/-- A move after which a record still serves what it has served: it has done so before, and no index of
data has changed that is not admitted. -/
def Forbears (r : Runner) (allows : (r : Request) → r.Answer → Prop) (record : Job.Record) (m : Memory)
    (x y : Moment) : Prop :=
  r.Stays record y.store → r.Stays record x.store ∧
    (r.Intact (r.Admitted allows record) m x → r.Intact (r.Admitted allows record) m y)

theorem Intact.aside {request : Request} {a : request.Answer} (intact : r.Intact may m x)
    (spares : r.leases.Spares request) (answered : Moment.surroundings allows request x a y) :
    r.Intact may m y :=
  fun i data spared => (intact i data spared).step (spares i data.1) answered

theorem Intact.renewed {x y : Moment × Lease} (intact : r.Intact may m x.1)
    (renewed : r.leases.Renewed x y) : r.Intact may m y.1 :=
  fun i data spared => (intact i data spared).renewed data.1 renewed

theorem Intact.saved {x y : Moment × Lease} (intact : r.Intact may m x.1)
    (saved : r.Saved record x y) : r.Intact may m y.1 :=
  fun i data spared => saved.at data (intact i data spared)

theorem Stays.congr {m m' : Memory} (stays : r.Stays record m)
    (same : m'.indices.find? r.records.index = m.indices.find? r.records.index) :
    r.Stays record m' := by
  obtain ⟨record', holds, current⟩ := stays
  exact ⟨record', holds.congr same, current⟩

theorem Saved.not_stays {record' : Job.Record} {feed : Feed.Metadata} {x y : Moment × Lease}
    (saved : r.Saved record' x y) (named : record'.name = record.name)
    (current : record'.currentIndex = some (r.nextIndex record feed)) :
    ¬r.Stays record y.1.store := by
  rintro ⟨record'', holds, stays⟩
  have written := saved.holds
  rw [named] at written
  obtain rfl := written.unique holds
  exact nextIndex_ne_current r record feed (stays.symm.trans current)

private theorem Stays.of_deleteIndex {x y : Moment × Lease} {index : String}
    {a : Except Store.Error Unit} (stays : r.Stays record y.1.store)
    (answered : r.held allows (.store (.deleteIndex index)) x a y) : r.Stays record x.1.store := by
  obtain ⟨record', holds, current⟩ := stays
  refine ⟨record', ?_, current⟩
  obtain ⟨⟨store, answer, same⟩, -⟩ := answered
  rw [same] at holds
  rcases Memory.deleteIndex_cases answer with ⟨-, rfl, -⟩ | ⟨-, removed, -⟩
  · exact holds
  · refine holds.congr ?_
    have left := removed r.records.index
    split at left
    · have none : store.document? r.records.index record.name = none := by
        rw [Memory.document?, left]
        rfl
      exact absurd none holds.present
    · exact left.symm

namespace Forbears

theorem refl (x : Moment) : r.Forbears allows record m x x := fun stays => ⟨stays, id⟩

theorem trans (first : r.Forbears allows record m x y) (second : r.Forbears allows record m y z) :
    r.Forbears allows record m x z := by
  intro stays
  obtain ⟨stays, later⟩ := second stays
  obtain ⟨stays, earlier⟩ := first stays
  exact ⟨stays, later ∘ earlier⟩

theorem of_moves (moves : Relation.ReflTransGen (r.Forbears allows record m) x y) :
    r.Forbears allows record m x y := by
  induction moves with
  | refl => exact .refl x
  | tail _ move ih => exact ih.trans move

/-- What is done to the index of leases, and what only looks, makes no difference. -/
theorem aside {request : Request} {a : request.Answer} (apart : r.leases.index ≠ r.records.index)
    (spares : r.leases.Spares request) (answered : Moment.surroundings allows request x a y) :
    r.Forbears allows record m x y := by
  have records := Moment.find?_of_spares (spares _ apart.symm) answered
  exact fun stays => ⟨stays.congr records.symm, fun intact => intact.aside spares answered⟩

theorem renewed {x y : Moment × Lease} (apart : r.leases.index ≠ r.records.index)
    (renewed : r.leases.Renewed x y) : r.Forbears allows record m x.1 y.1 := by
  have records := renewed.find? apart.symm
  exact fun stays => ⟨stays.congr records.symm, fun intact => intact.renewed renewed⟩

theorem saved {record' : Job.Record} {x y : Moment × Lease} (stays : r.Stays record x.1.store)
    (saved : r.Saved record' x y) : r.Forbears allows record m x.1 y.1 :=
  fun _ => ⟨stays, fun intact => intact.saved saved⟩

end Forbears

/-- The stored record is a record as it was, or says that a run is under way, and is the same otherwise. -/
def Unfinished (r : Runner) (allows : (r : Request) → r.Answer → Prop) (record : Job.Record)
    (m : Memory) : Prop :=
  ∃ marked, r.records.Holds m record.name marked ∧ (marked = record ∨ ∃ now, Tells allows now ∧
    marked = { record with state := inProgress record, lastUpdateTime := now })

theorem Unfinished.stays {m : Memory} (unfinished : r.Unfinished allows record m) :
    r.Stays record m := by
  obtain ⟨marked, holds, rfl | ⟨now, -, rfl⟩⟩ := unfinished
  · exact ⟨marked, holds, rfl⟩
  · exact ⟨_, holds, rfl⟩

/-- The record says no more than that a run is under way, and can be written. -/
structure Pending (r : Runner) (allows : (r : Request) → r.Answer → Prop) (record : Job.Record)
    (m : Memory) (x : Moment × Lease) : Prop where
  unfinished : r.Unfinished allows record x.1.store
  writable : x.1.store.isBlocked r.records.index = false
  faults : x.1.store.faults = m.faults

theorem Pending.congr {x y : Moment × Lease} (pending : r.Pending allows record m x)
    (records : y.1.store.indices.find? r.records.index = x.1.store.indices.find? r.records.index)
    (faults : y.1.store.faults = x.1.store.faults) : r.Pending allows record m y where
  unfinished :=
    have ⟨marked, holds, same⟩ := pending.unfinished
    ⟨marked, holds.congr records, same⟩
  writable := by rw [Memory.isBlocked, records]; exact pending.writable
  faults := faults.trans pending.faults

theorem Pending.marked {now : Instant} {x y : Moment × Lease} (pending : r.Pending allows record m x)
    (allowed : Tells allows now)
    (saved : r.Saved ({ record with state := inProgress record }.writtenAt now) x y) :
    r.Pending allows record m y where
  unfinished := ⟨_, saved.holds, .inr ⟨now, allowed, rfl⟩⟩
  writable := (saved.isBlocked _).trans pending.writable
  faults := saved.faults.trans pending.faults

/-- Nothing has been done to the data of the job yet. -/
structure Idle (r : Runner) (allows : (r : Request) → r.Answer → Prop) (record : Job.Record)
    (m : Memory) (x : Moment × Lease) : Prop extends Pending r allows record m x where
  intact : r.Intact (fun _ => False) m x.1

theorem Idle.renewed {x y : Moment × Lease} (idle : r.Idle allows record m x)
    (apart : r.leases.index ≠ r.records.index) (renewed : r.leases.Renewed x y) :
    r.Idle allows record m y where
  toPending :=
    have answered : r.held allows .renewLease x () y := renewed
    idle.toPending.congr (renewed.find? apart.symm) (held_faults answered)
  intact := idle.intact.renewed renewed

/-- Why a rotation has failed: there is nothing to load, and no index of data has been touched; or the
next index could not be loaded or served. -/
def Stopped (r : Runner) (allows : (r : Request) → r.Answer → Prop) (record : Job.Record) (m : Memory)
    (e : Error) (x : Moment) : Prop :=
  r.Unfit allows record.name record.feedFields e ∧ r.Intact (fun _ => False) m x ∨
    ∃ feed, allows (.feedFor record.name) (.ok (some feed)) ∧
      r.Hindered allows feed (r.nextIndex record feed) m e

/-- A rotation has failed and its record says so. -/
def Failed (r : Runner) (allows : (r : Request) → r.Answer → Prop) (record : Job.Record)
    (failureState : Job.State) (m : Memory) (e : Error) (x : Moment) : Prop :=
  r.Stopped allows record m e x ∧ ∃ now later, Tells allows now ∧ Tells allows later ∧
    r.records.Holds x.store record.name ((afterFailure record failureState now).writtenAt later)

/-- A failure is not changed by what becomes of the lease. -/
theorem Failed.aside {e : Error} {request : Request} {a : request.Answer}
    (failed : r.Failed allows record failureState m e x) (apart : r.leases.index ≠ r.records.index)
    (spares : r.leases.Spares request) (answered : Moment.surroundings allows request x a y) :
    r.Failed allows record failureState m e y := by
  obtain ⟨stopped, now, later, allowed, allowed', holds⟩ := failed
  refine ⟨stopped.imp_left (And.imp_right fun intact => intact.aside spares answered), now, later,
    allowed, allowed', holds.congr (Moment.find?_of_spares (spares _ apart.symm) answered)⟩

theorem afterFailure_currentIndex (record : Job.Record) (state : Job.State) (now later : Instant) :
    ((afterFailure record state now).writtenAt later).currentIndex = record.currentIndex :=
  congrArg List.getLast? (afterFailure_indices record state now)

private def failingStages (apart : r.leases.index ≠ r.records.index)
    (names : ∀ feed, r.IsData (r.nextIndex record feed)) (failureState : Job.State) (m : Memory) :
    r.Stages allows (fun x y => r.Forbears allows record m x.1 y.1) record failureState where
  still := fun x => .refl x.1
  renews := fun _ _ => .renewed apart
  before := r.Idle allows record m
  renewed := fun _ _ _ _ renewed idle => idle.renewed apart renewed
  marks := by
    intro now x y allowed idle saved
    exact ⟨.saved idle.unfinished.stays saved, idle.toPending.marked allowed saved,
      idle.intact.saved saved⟩
  building := fun feed x => r.Pending allows record m x ∧ r.Admitted allows record (r.nextIndex record feed)
  begins := fun feed reader _ found reads gate idle =>
    ⟨idle.toPending, feed, reader, found, reads, gate, rfl⟩
  builds := by
    rintro feed request x a y found touches ⟨pending, admitted⟩ answered
    have records := find?_held (touches _ (names feed).2.symm) apart.symm answered
    refine ⟨fun stays => ⟨stays.congr records.symm, fun intact i data unadmitted => ?_⟩,
      pending.congr records (held_faults answered), admitted⟩
    have other : i ≠ r.nextIndex record feed := fun same => unadmitted (same ▸ admitted)
    exact at_held (intact i data unadmitted) (touches i other) data.1 answered
  after := fun _ served x => served.name = record.name ∧ ¬r.Stays record x.1.store
  swaps := by
    intro feed reader generation millis succeeded enabled now timestamp x y _ _ _ _ _ index _ _ _ _ _
      _ saved
    have named := served_name record generation millis succeeded enabled
    have current : ((swapped record generation millis succeeded).enable enabled).currentIndex =
        some (r.nextIndex record feed) := by
      rw [Job.Record.currentIndex, served_indices, List.getLast?_concat, index]
    have gone := saved.not_stays named current
    exact ⟨fun stays => absurd stays gone, named, gone⟩
  removes := by
    rintro feed served index x a y _ ⟨named, gone⟩ answered
    have gone : ¬r.Stays record y.1.store := fun stays => gone (stays.of_deleteIndex answered)
    exact ⟨fun stays => absurd stays gone, named, gone⟩
  finished := fun _ _ => True
  clean := fun _ _ _ _ _ => trivial
  tidies := by
    rintro feed served kept now x y _ _ _ ⟨named, _⟩ saved
    let tidied := { served with indices := kept ++ [r.nextIndex record feed] }.writtenAt now
    have current : tidied.currentIndex = some (r.nextIndex record feed) := List.getLast?_concat
    have gone := saved.not_stays named current
    exact ⟨fun stays => absurd stays gone, trivial⟩
  untidied := fun _ _ _ _ _ => trivial
  broken := fun e x => r.Pending allows record m x ∧ r.Stopped allows record m e x.1
  unfit := fun _ _ unfit idle => ⟨idle.toPending, .inl ⟨unfit, idle.intact⟩⟩
  hindered := by
    rintro feed e x found hindered ⟨pending, -⟩
    refine ⟨pending, .inr ⟨feed, found, ?_⟩⟩
    cases hindered with
    | body reads broken => exact .body reads broken
    | fault spoils => exact .fault (pending.faults ▸ spoils)
    | record blocked => cases pending.writable.symm.trans blocked
  failed := fun e x => r.Failed allows record failureState m e x.1
  fails := by
    rintro e now later x y allowed allowed' ⟨pending, stopped⟩ saved
    have named := afterFailure_name record failureState now
    have holds := saved.holds
    have stopped := stopped.imp_left (And.imp_right fun intact => intact.saved saved)
    exact ⟨.saved pending.unfinished.stays saved, stopped, now, later, allowed, allowed', named ▸ holds⟩
  unrecorded := by
    rintro e x blocked ⟨pending, -⟩
    cases pending.writable.symm.trans blocked
  unmarked := by
    rintro x blocked idle
    cases idle.writable.symm.trans blocked
  aborted := fun x => r.Unfinished allows record x.1.store
  crowded := fun _ _ _ _ building => building.1.unfinished

/-- How a run ends that has rotated a record: if it has failed its record says so. -/
def Fails (r : Runner) (allows : (r : Request) → r.Answer → Prop) (record : Job.Record)
    (failureState : Job.State) (m : Memory) (outcome : Outcome) (y : Moment) : Prop :=
  ∀ reason, outcome = .failed reason →
    ∃ e, reason = e.message ∧ r.Failed allows record failureState m e y

/-- A run is aborted by this fault: its lease cannot be renewed, or there is no room for a batch and
its record says no more than that it is under way. -/
def Aborted (r : Runner) (allows : (r : Request) → r.Answer → Prop) (record : Job.Record) (f : Fault)
    (x : Moment) : Prop :=
  r.Untimely allows f ∨ r.Crowded f ∧ r.Unfinished allows record x.store

/-- How a run ends that has loaded a record: if it has failed its record says so, unless it has been
aborted. Nothing is said of a run that has been refused. -/
def FailsAtMost (r : Runner) (allows : (r : Request) → r.Answer → Prop) (record : Job.Record)
    (failureState : Job.State) (m : Memory) : Except Failure Outcome → Moment → Prop
  | .ok outcome, y => r.Fails allows record failureState m outcome y ∨
    outcome = .failed "task aborted" ∧ ∃ f, r.Aborted allows record f y
  | .error (.error _), _ => True
  | .error (.fault f), y => r.Aborted allows record f y

private theorem along_outcome_failing {own : Moment → Moment → Prop} {p : Program Outcome}
    (along : Along (Moment.surroundings allows) Eq own (r.FailsAtMost allows record failureState m) p x) :
    Along (Moment.surroundings allows) Eq own (r.FailsAtMost allows record failureState m)
      (p.orOnFault fun _ => .failed "task aborted") x := by
  refine along_orOnFault_iff.mpr (along.weaken fun result y ended => ?_)
  match result with
  | .ok _ | .error (.error _) => exact ended
  | .error (.fault f) => exact .inr ⟨rfl, f, ended⟩

private theorem along_failing {x : Moment × Lease} (apart : r.leases.index ≠ r.records.index)
    (names : ∀ feed, r.IsData (r.nextIndex record feed)) (unwritten : r.Unwritten x)
    (idle : r.Idle allows record m x) :
    Along (r.held allows) Eq (fun x y => r.Forbears allows record m x.1 y.1)
      (Concludes (fun outcome y => r.Fails allows record failureState m outcome y.1) (fun _ _ => False)
        fun f y => r.Aborted allows record f y.1) (r.executeRotation record failureState) x := by
  refine ((failingStages apart names failureState m).along_executeRotation unwritten idle).weaken
    fun result y ended => ?_
  match result with
  | .ok outcome =>
    rintro reason rfl
    exact ended
  | .error (.fault _) => exact .inr ended

private theorem along_release_failing {outcome : Outcome} (apart : r.leases.index ≠ r.records.index)
    (lease : Lease) (ended : r.Fails allows record failureState m outcome x) :
    Along (Moment.surroundings allows) Eq (r.Forbears allows record m)
      (fun _ y => r.Fails allows record failureState m outcome y) (r.leases.releaseQuietly lease) x := by
  have asks := asks_releaseQuietly r.leases lease
  refine ((asks.moves (fun request x a y spares answered => .aside apart spares answered) x).and
    (asks.ending (r.Fails allows record failureState m outcome) ?_ ended)).mono (fun _ _ => id)
      (fun _ _ => And.left) fun _ _ => And.right
  intro request x a y spares fails answered reason same
  obtain ⟨e, said, failed⟩ := fails reason same
  exact ⟨e, said, failed.aside apart spares answered⟩

/-- A run that gives its lease back ends as it does with the lease. -/
private theorem along_withLease_failing {work : Program Outcome} {lease : Lease}
    (apart : r.leases.index ≠ r.records.index) (timely : allows .now lease.takenAt)
    (along : Along (r.held allows) Eq (fun x y => r.Forbears allows record m x.1 y.1)
      (Concludes (fun outcome y => r.Fails allows record failureState m outcome y.1) (fun _ _ => False)
        fun f y => r.Aborted allows record f y.1) work (x, lease)) :
    Along (Moment.surroundings allows) Eq (r.Forbears allows record m)
      (r.FailsAtMost allows record failureState m)
      ((r.leases.withLease lease work).bind fun result => done (settled result)) x := by
  let ends (result : Except Failure (Except Error Outcome)) (y : Moment) : Prop :=
    match result with
    | .ok result => ∃ outcome, result = .ok outcome ∧
      r.Fails allows record failureState m outcome y
    | .error (.error _) => False
    | .error (.fault f) => r.Aborted allows record f y
  have leased : Along (Moment.surroundings allows) Eq (r.Forbears allows record m) ends
      (r.leases.withLease lease work) x := by
    refine along_withLease_or_fault r.leases .refl (fun _ _ _ _ => .renewed apart)
      (fun f y takenAt times fault => .inl ⟨takenAt, times.elim (fun same => same ▸ timely) id, fault⟩)
      (along.weaken fun result y ended => ?_)
    match result with
    | .ok outcome =>
      exact (along_release_failing apart y.2 ended).weaken fun _ z ended => ⟨outcome, rfl, ended⟩
    | .error (.fault _) => exact ended
  refine along_bind_iff.mpr (leased.weaken fun result y ended => ?_)
  match result with
  | .ok result =>
    obtain ⟨outcome, rfl, ended⟩ := ended
    exact .inl ended
  | .error (.fault _) => exact ended

private theorem along_noted {changed : Job.Record} {outcome : Outcome} {x : Moment × Lease}
    (quiet : ∀ reason, outcome ≠ .failed reason) (idle : r.Idle allows record m x) :
    Along (r.held allows) Eq (fun x y => r.Forbears allows record m x.1 y.1)
      (Concludes (fun outcome y => r.Fails allows record failureState m outcome y.1) (fun _ _ => False)
        fun f y => r.Aborted allows record f y.1) ((r.saveQuietly changed).bind fun _ => done outcome) x := by
  have nothing (y : Moment) : r.Fails allows record failureState m outcome y :=
    fun reason same => absurd same (quiet reason)
  exact along_bind_iff.mpr (along_saveQuietly (fun x => .refl x.1)
    (fun now y _ saved => ⟨.saved idle.unfinished.stays saved, nothing y.1⟩) fun _ => nothing x.1)

private theorem along_ticking {lease : Lease} (apart : r.leases.index ≠ r.records.index)
    (names : ∀ feed, r.IsData (r.nextIndex record feed)) (taken : r.Taken allows name (x, lease))
    (stored : r.records.Holds x.store name record) (idle : r.Idle allows record m (x, lease)) :
    Along (Moment.surroundings allows) Eq (r.Forbears allows record m)
      (r.FailsAtMost allows record .refreshFailed m)
      ((r.leases.withLease lease (r.scheduledUpdate name)).bind fun result =>
        done (settled result)) x := by
  refine along_withLease_failing apart taken.timely (along_scheduled x.store (fun x => .refl x.1) rfl
    (fun none => absurd stored (none record)) (fun missing => absurd missing stored.present) ?_ ?_ ?_)
  · rintro record' now holds - -
    obtain rfl := stored.unique holds
    exact along_noted nofun idle
  · rintro record' now holds - -
    obtain rfl := stored.unique holds
    exact along_noted nofun idle
  · rintro record' holds - -
    obtain rfl := stored.unique holds
    exact along_failing apart names taken.unwritten idle

private theorem along_refreshing_failing {lease : Lease} (apart : r.leases.index ≠ r.records.index)
    (names : ∀ feed, r.IsData (r.nextIndex record feed)) (taken : r.Taken allows name (x, lease))
    (stored : r.records.Holds x.store name record) (idle : r.Idle allows record m (x, lease)) :
    Along (Moment.surroundings allows) Eq (r.Forbears allows record m)
      (r.FailsAtMost allows record (failureStateOf record) m)
      ((r.refreshing name lease).bind Run.outcome) x := by
  refine along_bind_iff.mpr (along_refreshing x.store (.refl x) rfl
    (fun none => absurd stored (none record)) (fun missing => absurd missing stored.present)
    (fun _ _ _ => ?_) fun record' holds _ => ?_)
  · have moves : Along (Moment.surroundings allows) Eq (r.Forbears allows record m) (fun _ _ => True)
        (r.leases.releaseQuietly lease) x :=
      (asks_releaseQuietly r.leases lease).moves
        (fun request x a y spares answered => .aside apart spares answered) x
    refine along_bind_iff.mpr ((moves.and (along_releaseQuietly_ok r.leases lease x)).mono
      (fun _ _ => id) (fun _ _ => And.left) fun result y ended => ?_)
    obtain ⟨-, rfl⟩ := ended
    trivial
  · obtain rfl := stored.unique holds
    refine along_outcome_failing (along_withLease_failing apart taken.timely (along_bind_iff.mpr (Along.during
      (fun _ _ => .renewed apart) (fun x a y answered => (held_of_other answered nofun nofun).2)
      (fun x => .refl x.1) ?_)))
    intro y renewals _ z answered
    obtain ⟨-, rfl⟩ := held_of_other answered nofun nofun
    have unwritten : r.Unwritten z := fun i => (taken.unwritten i).renewals renewals
    have idle : r.Idle allows record m z := kept_renewals (r.Idle allows record m)
      (fun x y renewed idle => idle.renewed apart renewed) renewals idle
    exact ⟨.refl z.1, along_failing apart names unwritten idle⟩

/-- The runs of a job that has a record, and the state that the record has afterwards if they fail. -/
inductive Attempts (r : Runner) (name : String) (record : Job.Record) :
    Program Outcome → Job.State → Prop where
  | scheduled : Attempts r name record (r.runScheduled name) .refreshFailed
  | tick : Attempts r name record (r.runJob name).outcome .refreshFailed
  | onDemand : Attempts r name record ((r.refreshJob name).bind Run.outcome) (failureStateOf record)

private theorem Taken.idle {lease : Lease} (taken : r.Taken allows name (x, lease))
    (apart : r.leases.index ≠ r.records.index) (changes : r.leases.ChangesOnly name (.start m) x)
    (stored : r.records.Holds m name record) (named : record.name = name)
    (writable : m.isBlocked r.records.index = false) :
    r.records.Holds x.store name record ∧ r.Idle allows record m (x, lease) := by
  have records : x.store.indices.find? r.records.index = m.indices.find? r.records.index :=
    changes.indices _ apart.symm
  have holds : r.records.Holds x.store name record := stored.congr records
  refine ⟨holds, ⟨⟨record, named ▸ holds, .inl rfl⟩, ?_, changes.faults⟩, fun i data _ => ⟨?_, ?_⟩⟩
  · rw [Memory.isBlocked, records]
    exact writable
  · exact changes.indices i data.1
  · exact (taken.unwritten i).written data

/-- A tick that goes on to its job has the lease, and has done nothing else. -/
private theorem along_acquire_attempted (m : Memory) :
    Along (Moment.surroundings allows) Eq (r.leases.ChangesOnly name)
      (fun taken y => ∀ lease, taken = .ok (.ok (some lease)) →
        r.leases.ChangesOnly name (.start m) y ∧ r.Taken allows name (y, lease))
      (r.acquire name).attempt (.start m) := by
  have fresh : r.Fresh (.start m) := fun _ _ => rfl
  refine along_attempt_iff.mpr ((along_acquire_taken fresh).weaken fun result y ended => ?_)
  rcases result with (e | f) | (_ | lease)
  · rintro _ ⟨⟩
  · rintro _ ⟨⟩
  · rintro _ ⟨⟩
  · rintro _ ⟨⟩
    exact ended

/-- A tick that comes to load the record of its job has the lease by then. -/
private theorem exists_leased_tick
    {next : (Request.store (.getDocument r.records.index name)).Answer → Program Outcome}
    (apart : r.leases.index ≠ r.records.index) (names : ∀ feed, r.IsData (r.nextIndex record feed))
    (stored : r.records.Holds m name record) (named : record.name = name)
    (writable : m.isBlocked r.records.index = false)
    (loads : Reaches (Moment.surroundings allows) (r.runScheduled name) (.start m)
      (ask (.store (.getDocument r.records.index name)) next) x) :
    ∃ p' w, Reaches (Moment.surroundings allows) p' w
        (ask (.store (.getDocument r.records.index name)) next) x ∧
      r.Intact (r.Admitted allows record) m w ∧ Along (Moment.surroundings allows) Eq
        (r.Forbears allows record m) (r.FailsAtMost allows record .refreshFailed m) p' w := by
  have own := own_acquire r.leases name r.config.lease.durationSecs
  have other : ¬r.leases.Own (.store (.getDocument r.records.index name)) :=
    fun own => apart (own _ rfl).symm
  obtain ⟨taken, w, ended, onward⟩ := own.attempt.passes other loads
  rcases taken with e | (_ | lease)
  · cases onward
  · cases onward
  · obtain ⟨changes, taken⟩ := (along_acquire_attempted m).ended ended lease rfl
    obtain ⟨holds, idle⟩ := taken.idle apart changes stored named writable
    refine ⟨_, w, onward, fun i data _ => idle.intact i data id, ?_⟩
    exact along_ticking apart names taken holds idle

/-- A run that comes to load the record of its job has the lease by then; and from there on it goes on
as has been said. -/
private theorem exists_leased {p : Program Outcome}
    {next : (Request.store (.getDocument r.records.index name)).Answer → Program Outcome}
    (apart : r.leases.index ≠ r.records.index) (names : ∀ feed, r.IsData (r.nextIndex record feed))
    (stored : r.records.Holds m name record) (named : record.name = name)
    (writable : m.isBlocked r.records.index = false) (attempts : r.Attempts name record p failureState)
    (loads : Reaches (Moment.surroundings allows) p (.start m)
      (ask (.store (.getDocument r.records.index name)) next) x) :
    ∃ p' w, Reaches (Moment.surroundings allows) p' w
        (ask (.store (.getDocument r.records.index name)) next) x ∧
      r.Intact (r.Admitted allows record) m w ∧ Along (Moment.surroundings allows) Eq
        (r.Forbears allows record m) (r.FailsAtMost allows record failureState m) p' w := by
  cases attempts with
  | scheduled => exact exists_leased_tick apart names stored named writable loads
  | tick =>
    obtain ⟨q, onward, same⟩ := reaches_orOnFault_iff.mp loads
    obtain ⟨next', rfl⟩ := ask_of_orOnFault same.symm
    cases onward with
    | asked answered onward =>
    obtain ⟨-, rfl⟩ := answered
    obtain ⟨p', w, way, intact, along⟩ :=
      exists_leased_tick apart names stored named writable onward
    exact ⟨_, w, reaches_orOnFault_iff.mpr ⟨_, way, same⟩, intact, along_outcome_failing along⟩
  | onDemand =>
    rw [refreshJob_eq, Program.bind_assoc] at loads
    have fresh : r.Fresh (.start m) := fun _ _ => rfl
    have other : ¬r.leases.Own (.store (.getDocument r.records.index name)) :=
      fun own => apart (own _ rfl).symm
    have own : (r.acquireOrContend name).Asks r.leases.Own :=
      (own_acquire r.leases name r.config.lease.durationSecs).bind
        fun taken => by cases taken <;> trivial
    obtain ⟨lease, w, ended, onward⟩ := own.passes other loads
    obtain ⟨changes, taken⟩ := (along_acquireOrContend_taken fresh).ended ended
    obtain ⟨holds, idle⟩ := taken.idle apart changes stored named writable
    refine ⟨_, w, onward, fun i data _ => idle.intact i data id, ?_⟩
    exact along_refreshing_failing apart names taken holds idle

private theorem afterFailure_eq (record : Job.Record) (state : Job.State) (now later : Instant) :
    (afterFailure record state now).writtenAt later =
      { record with
        state
        updateStats := { record.updateStats with lastFailedAt := some now }
        lastUpdateTime := later
        updateEnabled := if state = .refreshFailed then false else record.updateEnabled
        enabledTime := if state = .refreshFailed then none else record.enabledTime } := by
  unfold afterFailure
  split <;> rfl

/-- A run that has loaded the record of its job and fails leaves it as it was but for what a failure
notes; or it has been aborted, and if that is so for want of room, its record goes on saying that it is
under way. At every moment from the loading to its end each index of data is as it was before that is
not the next one with a feed that has passed the gate; and if the run fails at the gate or before, so is
every index of data. -/
theorem failed_run_notes {config : Config.EngineConfig} {service : Nat} {p q : Program Outcome}
    {next : (Request.store (.getDocument r.records.index name)).Answer → Program Outcome}
    {reason : String} (created : Runner.create config service = .ok r) (default : config.store = {})
    (stored : r.records.Holds m name record) (named : record.name = name)
    (writable : m.isBlocked r.records.index = false) (attempts : r.Attempts name record p failureState)
    (loads : Reaches (Moment.surroundings allows) p (.start m)
      (ask (.store (.getDocument r.records.index name)) next) x)
    (way : Reaches (Moment.surroundings allows)
      (ask (.store (.getDocument r.records.index name)) next) x q z)
    (ended : Ends (Moment.surroundings allows) q z (.ok (.failed reason)) y) :
    (∃ e now later, reason = Error.message e ∧ Tells allows now ∧ Tells allows later ∧
      r.records.Holds y.store name
        { record with
          state := failureState
          updateStats := { record.updateStats with lastFailedAt := some now }
          lastUpdateTime := later
          updateEnabled := if failureState = .refreshFailed then false else record.updateEnabled
          enabledTime := if failureState = .refreshFailed then none else record.enabledTime } ∧
      (∀ i, r.IsData i → ¬r.Admitted allows record i → z.At i (m.indices.find? i) []) ∧
      (r.Unfit allows name record.feedFields e ∧
          (∀ i, r.IsData i → y.At i (m.indices.find? i) []) ∨
        ∃ feed, allows (.feedFor name) (.ok (some feed)) ∧
          r.Hindered allows feed (r.nextIndex record feed) m e)) ∨
    reason = "task aborted" ∧ ((∃ f, r.Untimely allows f) ∨ ¬r.Roomy ∧
      (∃ marked, r.records.Holds y.store name marked ∧ (marked = record ∨ ∃ now, Tells allows now ∧
        marked = { record with state := inProgress record, lastUpdateTime := now })) ∧
      ∀ i, r.IsData i → ¬r.Admitted allows record i → z.At i (m.indices.find? i) []) := by
  subst named
  have apart := apart_of_create created
  have names (feed : Feed.Metadata) : r.IsData (r.nextIndex record feed) :=
    isData_of_default created default (nextName_mem _ _)
  obtain ⟨p', w, way', intact, along⟩ :=
    exists_leased apart names stored rfl writable attempts loads
  obtain ⟨along, before⟩ := along.reached (way'.trans way)
  obtain ⟨-, after⟩ := along.reached ended
  have spared (stays : r.Stays record y.store) : r.Intact (r.Admitted allows record) m z :=
    (Forbears.of_moves before (Forbears.of_moves after stays).1).2 intact
  rcases along.ended ended with fails | ⟨said, f, untimely | ⟨crowded, unfinished⟩⟩
  · obtain ⟨e, said, stopped, now, later, allowed, allowed', holds⟩ := fails reason rfl
    have stays : r.Stays record y.store := ⟨_, holds, afterFailure_currentIndex record _ now later⟩
    refine .inl ⟨e, now, later, said, allowed, allowed', afterFailure_eq record _ now later ▸ holds,
      spared stays, ?_⟩
    exact stopped.imp_left (And.imp_right fun intact i data => intact i data id)
  · exact .inr ⟨Outcome.failed.inj said, .inl ⟨f, untimely⟩⟩
  · exact .inr ⟨Outcome.failed.inj said, .inr ⟨crowded.2, unfinished, spared unfinished.stays⟩⟩

section

open Example

/-- The record of the job is loaded next. -/
private def isLoad : Program Outcome → Bool
  | .ask (.store (.getDocument index id)) _ => index == ".threatintel-jobs" && id == "job"
  | _ => false

private theorem exists_load {q : Program Outcome} (loads : isLoad q = true) :
    ∃ next, q = .ask (.store (.getDocument ".threatintel-jobs" "job")) next := by
  unfold isLoad at loads
  split at loads
  · obtain ⟨rfl, rfl⟩ : _ = _ ∧ _ = _ := by simpa using loads
    exact ⟨_, rfl⟩
  · cases loads

/-- What is left of a run after so many answers, and the moment of it. -/
private def afterAnswers (n : Nat) (p : Program Outcome) (m : Memory) : Program Outcome × Moment :=
  steps (Moment.answeredBy answer) n p (.start m)

private def endOf (q : Program Outcome × Moment) : Moment :=
  (q.1.run (Moment.answeredBy answer) q.2).2

private theorem reaches_afterAnswers (n : Nat) (p : Program Outcome) (m : Memory) :
    Reaches (Moment.surroundings (answers feed reply)) p (.start m) (afterAnswers n p m).1
      (afterAnswers n p m).2 :=
  reaches_steps (Moment.answeredBy_allowed answer_allowed) n p _

/-- The feed of the job has lost a field. -/
private def lacking : Job.Record := { available with feedFields := ["gone"] }

private def lackingStore : Memory := served.write ".threatintel-jobs" "job" lacking.toJson

private def refused : Program Outcome × Moment :=
  afterAnswers 7 (runner.runJob "job").outcome lackingStore

/-- A tick fails at the gate: its record says so, and what it serves is as it was. -/
theorem failed_run_notes_header : ∃ now later,
    runner.records.Holds (endOf refused).store "job"
      { lacking with
        state := .refreshFailed
        updateStats := { lacking.updateStats with lastFailedAt := some now }
        lastUpdateTime := later
        updateEnabled := false
        enabledTime := none } ∧
    (endOf refused).store.indices.find? "job-1" = lackingStore.indices.find? "job-1" := by
  have created : Runner.create {} 0 = .ok runner := by rfl
  have stored : runner.records.Holds lackingStore "job" lacking :=
    ⟨_, Memory.document?_write_self _ _ _ _, Job.Record.fromJson?_toJson lacking⟩
  have facts : isLoad refused.1 = true ∧
      (refused.1.run (Moment.answeredBy answer) refused.2).1.toOption =
        some (.failed "Feed header is missing previously recorded fields: gone") := by
    decide +kernel
  obtain ⟨next, load⟩ := exists_load facts.1
  have loads : Reaches (Moment.surroundings (answers feed reply)) (runner.runJob "job").outcome
      (.start lackingStore) refused.1 refused.2 := reaches_afterAnswers 7 _ _
  have ended : Ends (Moment.surroundings (answers feed reply)) refused.1 refused.2 (.ok (.failed
      "Feed header is missing previously recorded fields: gone")) (endOf refused) :=
    Moment.ends_answeredBy answer_allowed refused.1 refused.2 facts.2
  rw [load] at loads ended
  rcases failed_run_notes created rfl stored rfl (by decide +kernel) .tick loads ended .here with
    ⟨e, now, later, -, -, -, holds, spared, -⟩ | ⟨aborted, -⟩
  · refine ⟨now, later, holds, (spared "job-1" ?_ ?_).contents⟩
    · unfold IsData
      decide +kernel
    · rintro ⟨feed', reader, found, -, -, next⟩
      obtain rfl : feed' = feed := Option.some.inj (Except.ok.inj found)
      revert next
      decide +kernel
  · exact absurd aborted (by decide)

private def overfull : Program Outcome × Moment :=
  afterAnswers 7 (hoarder.runJob "job").outcome served

/-- A tick that has loaded the record of its job is aborted, since there is no room for a batch, and the
record goes on saying that the job is being refreshed. -/
theorem record_left_refreshing : ∃ next marked, Runner.create hoarding 0 = .ok hoarder ∧
    hoarder.records.Holds served "job" available ∧
      Reaches (Moment.surroundings (answers feed reply)) (hoarder.runJob "job").outcome (.start served)
        (.ask (.store (.getDocument ".threatintel-jobs" "job")) next) overfull.2 ∧
        Ends (Moment.surroundings (answers feed reply))
          (.ask (.store (.getDocument ".threatintel-jobs" "job")) next) overfull.2
          (.ok (.failed "task aborted")) (endOf overfull) ∧
          hoarder.records.Holds (endOf overfull).store "job" marked ∧
            marked.state = .refreshing := by
  have stored : hoarder.records.Holds served "job" available :=
    ⟨_, by rfl, Job.Record.fromJson?_toJson available⟩
  have facts : isLoad overfull.1 = true ∧
      (overfull.1.run (Moment.answeredBy answer) overfull.2).1.toOption =
        some (.failed "task aborted") := by
    decide +kernel
  have left : (((endOf overfull).store.document? ".threatintel-jobs" "job").bind fun stored =>
      (Job.Record.fromJson? (.ofValue stored.source)).map (·.state)) = some .refreshing := by
    decide +kernel
  obtain ⟨stored', there, left⟩ := Option.bind_eq_some_iff.mp left
  obtain ⟨marked, decoded, state⟩ := Option.map_eq_some_iff.mp left
  obtain ⟨next, load⟩ := exists_load facts.1
  have loads : Reaches (Moment.surroundings (answers feed reply)) (hoarder.runJob "job").outcome
      (.start served) overfull.1 overfull.2 := reaches_afterAnswers 7 _ _
  have ended : Ends (Moment.surroundings (answers feed reply)) overfull.1 overfull.2
      (.ok (.failed "task aborted")) (endOf overfull) :=
    Moment.ends_answeredBy answer_allowed overfull.1 overfull.2 facts.2
  rw [load] at loads ended
  exact ⟨next, marked, by rfl, stored, loads, ended, ⟨stored', there, decoded⟩, state⟩

end

end Runner

end IndicatorFeeds

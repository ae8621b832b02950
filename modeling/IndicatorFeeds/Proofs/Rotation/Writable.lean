import IndicatorFeeds.Proofs.Rotation.Saved
import IndicatorFeeds.Proofs.Rotation.Leased

namespace IndicatorFeeds

open Store (Memory MemoryIndex Call)
open Program Rotation

/-- The request closes no index for writes. -/
def Request.ClosesNothing (request : Request) : Prop :=
  ∀ index update, request ≠ .store (.updateSettings index update)

namespace Runner

variable {r : Runner} {allows : (r : Request) → r.Answer → Prop} {name index : String}
  {record : Job.Record}

/-- The index of records takes writes. -/
def Writable (r : Runner) (x : Moment) : Prop := x.store.isBlocked r.records.index = false

theorem Writable.congr {x y : Moment} (writable : r.Writable x)
    (same : y.store.indices.find? r.records.index = x.store.indices.find? r.records.index) :
    r.Writable y := by
  unfold Writable Memory.isBlocked at writable ⊢
  rw [same]
  exact writable

theorem Writable.step {request : Request} {a : request.Answer} {x y : Moment}
    (writable : r.Writable x) (closesNothing : request.ClosesNothing)
    (answered : Moment.surroundings allows request x a y) : r.Writable y := by
  cases request with
  | store c =>
    obtain ⟨store, answer, rfl⟩ := answered
    have notSettings : ∀ update, c ≠ .updateSettings r.records.index update :=
      fun update same => closesNothing _ update (congrArg Request.store same)
    have kept := Memory.isBlocked_answer notSettings writable
    rw [answer] at kept
    exact kept
  | _ =>
    obtain ⟨-, rfl⟩ := answered
    exact writable

theorem Writable.renewed {x y : Moment × Lease} (writable : r.Writable x.1)
    (renewed : r.leases.Renewed x y) : r.Writable y.1 := by
  rcases renewed with rfl | ⟨source, -, store, -, -, -⟩
  · exact writable
  · unfold Writable
    rw [store, Memory.isBlocked_write]
    exact writable

theorem Writable.held {request : Request} {a : request.Answer} {x y : Moment × Lease}
    (writable : r.Writable x.1) (closesNothing : request.ClosesNothing)
    (answered : r.held allows request x a y) : r.Writable y.1 := by
  by_cases renews : request = .renewLease
  · subst renews
    exact writable.renewed answered
  · exact writable.step closesNothing ((Surroundings.held_of_ne renews).mp answered).1

theorem Saved.writable {x y : Moment × Lease} (saved : r.Saved record x y) : r.Writable y.1 :=
  (saved.isBlocked r.records.index).trans saved.1

theorem Writable.along {p : Program α} {x : Moment × Lease} (asks : p.Asks Request.ClosesNothing)
    (writable : r.Writable x.1) :
    Along (r.held allows) (r.held allows).renewals (fun _ _ => True) (fun _ y => r.Writable y.1)
      p x := by
  have kept : ∀ x y, (r.held allows).renewals x y → r.Writable x.1 → r.Writable y.1 :=
    fun _ _ => kept_renewals (fun x => r.Writable x.1) fun _ _ renewed writable =>
      writable.renewed renewed
  have keeps : ∀ request x a y, request.ClosesNothing → r.Writable x.1 →
      r.held allows request x a y → r.Writable y.1 :=
    fun _ _ _ _ closesNothing writable answered => writable.held closesNothing answered
  exact (asks.along (fun x : Moment × Lease => r.Writable x.1) keeps kept writable).ending

theorem Writable.along_releaseQuietly {x : Moment} (s : LeaseService) (lease : Lease)
    (writable : r.Writable x) :
    Along (Moment.surroundings allows) Eq (fun _ _ => True) (fun _ y => r.Writable y)
      (s.releaseQuietly lease) x := by
  have asks : (s.releaseQuietly lease).Asks Request.ClosesNothing := by
    refine Asks.bind (Asks.attempt ⟨fun _ _ => nofun, fun a => ?_⟩) fun _ => trivial
    match a with
    | .ok () => trivial
    | .error e => cases e <;> trivial
  have keeps : ∀ request x a y, request.ClosesNothing → r.Writable x →
      Moment.surroundings allows request x a y → r.Writable y :=
    fun _ _ _ _ closesNothing writable answered => writable.step closesNothing answered
  exact asks.ending r.Writable keeps writable

private theorem asks_indicesOf (record : Job.Record) :
    (r.indicesOf record).Asks Request.ClosesNothing := by
  have finds : (Program.feedFor record.name).Asks Request.ClosesNothing :=
    (safe_feedFor fun _ _ => nofun).asks
  refine finds.attempt.bind fun answer => ?_
  cases answer <;> trivial

private theorem asks_saveQuietly (record : Job.Record) :
    (r.saveQuietly record).Asks Request.ClosesNothing :=
  ⟨fun _ _ => nofun, fun _ => ⟨fun _ _ => nofun, fun _ => trivial⟩⟩

private theorem asks_delete (name : String) :
    (r.records.delete name).Asks Request.ClosesNothing := by
  refine ⟨fun _ _ => nofun, fun a => ?_⟩
  match a with
  | .ok () => trivial
  | .error e => cases e <;> trivial

/-- How what has written a record ends. -/
private def Wrote (r : Runner) : Except ε α → Moment → Prop
  | .ok _, y => r.Writable y
  | .error _, _ => True

private theorem along_update {x : Moment × Lease} :
    Along (r.held allows) (r.held allows).renewals (fun _ _ => True)
      (fun result y => r.Wrote result y.1) (r.records.update record) x := by
  refine along_bind_iff.mpr ?_
  intro y _ (now : Reading) z _
  refine ⟨trivial, ?_⟩
  intro y' _ a z' answered
  refine ⟨trivial, ?_⟩
  let written := record.writtenAt now.instant
  have answered : r.held allows (.store (.putDocument r.records.index written.name written.toJson
    .overwrite)) y' a z' := answered
  rcases put_saved answered with ⟨version, rfl, saved⟩ | ⟨rfl, -, -⟩
  · exact saved.writable
  · trivial

private theorem asks_remove (r : Runner) (name : String) (record : Job.Record)
    (removed : Except Error Unit) :
    (match removed with
      | .error e => (r.saveQuietly record).bind fun _ => Program.error e
      | .ok _ => r.records.delete name : Program Unit).Asks Request.ClosesNothing := by
  cases removed with
  | error e => exact (asks_saveQuietly _).bind fun _ => trivial
  | ok => exact asks_delete name

/-- A deletion writes its record before it deletes anything. -/
private theorem along_deletion {x : Moment × Lease} :
    Along (r.held allows) (r.held allows).renewals (fun _ _ => True)
      (fun result y => r.Wrote result y.1) (r.deleteHeld name) x := by
  have loads : Along (r.held allows) (r.held allows).renewals (fun _ _ => True) (fun _ _ => True)
      (r.requireRecord name) x := along_trivial _ x
  refine along_bind_iff.mpr (loads.weaken fun result y _ => ?_)
  match result with
  | .error _ => trivial
  | .ok record =>
  show Along _ _ _ _ ((r.records.update { record with state := .deleting }).bind _) y
  refine along_bind_iff.mpr (along_update.weaken fun result z written => ?_)
  match result with
  | .error _ => trivial
  | .ok served =>
  have deletes (indices : List String) : (deleteIndices indices).Asks Request.ClosesNothing :=
    (safe_deleteIndices fun _ _ _ _ => nofun).asks
  have removes := Asks.bind (asks_indicesOf (r := r) served) fun indices =>
    (deletes indices).attempt.bind fun removed =>
      asks_remove r name { served with state := record.state } removed
  refine (Writable.along removes written).weaken fun result z' ended => ?_
  match result with
  | .ok () => exact ended
  | .error _ => trivial

/-- How the work under a lease ends that has written a record. -/
private def WroteUnder (r : Runner) : Except Failure (Except Error α) → Moment → Prop
  | .ok result, y => r.Wrote result y
  | .error _, _ => True

private theorem along_deleteLeased {x : Moment} {lease : Lease} :
    Along (Moment.surroundings allows) Eq (fun _ _ => True) r.WroteUnder
      (r.leases.withLease lease (KeepAlive.during (r.deleteHeld name))) x := by
  have deletes : Along (r.held allows) Eq (fun _ _ => True) (fun result y => r.Wrote result y.1)
      (KeepAlive.during (r.deleteHeld name)) (x, lease) :=
    Along.during (fun _ _ _ => trivial)
      (fun x a y answered => (held_of_other answered nofun nofun).2) (fun _ => trivial)
      along_deletion
  refine IndicatorFeeds.along_withLease r.leases (fun _ => trivial) (fun _ _ _ _ => trivial)
    (fun _ _ => trivial) (deletes.weaken fun result y ended => ?_)
  match result with
  | .ok () => exact Writable.along_releaseQuietly r.leases y.2 ended
  | .error (.error _) => exact (along_trivial _ _).weaken fun _ _ _ => trivial
  | .error (.fault _) => trivial

theorem writable_of_deleteJob {m : Memory} {y : Moment}
    (ended : Ends (Moment.surroundings allows) (r.deleteJob name) (.start m) (.ok ()) y) :
    r.Writable y := by
  have acquires : Along (Moment.surroundings allows) Eq (fun _ _ => True) (fun _ _ => True)
      (r.acquireOrContend name) (.start m) := along_trivial _ _
  have deletes : Along (Moment.surroundings allows) Eq (fun _ _ => True) r.Wrote
      (r.deleteJob name) (.start m) := by
    refine along_bind_iff.mpr (acquires.weaken fun result x _ => ?_)
    match result with
    | .error _ => trivial
    | .ok lease =>
    refine along_bind_iff.mpr (along_deleteLeased.weaken fun result y ended => ?_)
    match result with
    | .ok (.ok ()) => exact ended
    | .ok (.error _) | .error _ => trivial
  exact deletes.ended ended

end Runner

end IndicatorFeeds

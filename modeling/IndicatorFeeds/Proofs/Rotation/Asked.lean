import IndicatorFeeds.Proofs.Program.Safe
import IndicatorFeeds.Proofs.Rotation.Build

namespace IndicatorFeeds

open Store (Memory Call BulkItem)
open Program Rotation

/-- The request changes no index but this one. -/
def Request.Touches (index : String) (request : Request) : Prop :=
  ∀ i, i ≠ index → request.Spares i

variable {index : String}

theorem Request.touches_of_index {c : Call} (about : c.index = index) :
    (store c).Touches index := fun _ other => .inr (about ▸ other.symm)

theorem Request.touches_of_isRead {c : Call} (reads : c.isRead) (index : String) :
    (store c).Touches index := fun _ _ => .inl reads

theorem asks_ofStore {may : Request → Prop} (a : Except Store.Error α) : (ofStore a).Asks may := by
  cases a <;> trivial

theorem asks_ofExcept {may : Request → Prop} (a : Except Error α) : (ofExcept a).Asks may := by
  cases a <;> trivial

private theorem asks_write {t : Target} (batch : Array BulkItem) :
    (t.write batch).Asks (Request.Touches t.index) :=
  ⟨Request.touches_of_index rfl, fun a => asks_ofStore a⟩

private theorem asks_populateFrom {t : Target} {failure : Option Error} (batch : Array BulkItem)
    (counts : RowCounts) (rows : List Feed.Row) :
    (t.populateFrom failure batch counts rows).Asks (Request.Touches t.index) := by
  induction rows generalizing batch counts with
  | nil =>
    cases failure with
    | some => trivial
    | none =>
      unfold Target.populateFrom Target.finish
      dsimp only
      split
      · trivial
      · exact (asks_write batch).bind fun _ => trivial
  | cons row rest ih =>
    unfold Target.populateFrom
    split
    · exact ih batch _
    · dsimp only
      split
      · exact ih _ counts
      · exact (asks_write _).bind fun _ => ih #[] _

private theorem asks_populate (t : Target) (rows : List Feed.Row) (failure : Option Error) :
    (t.populate rows failure).Asks (Request.Touches t.index) := by
  unfold Target.populate
  split
  · trivial
  · exact asks_populateFrom #[] ⟨0, 0⟩ rows

private theorem asks_freeze (index : String) : (freeze index).Asks (Request.Touches index) := by
  refine ⟨Request.touches_of_isRead rfl index, fun a => (asks_ofStore a).bind fun _ => ?_⟩
  refine ⟨Request.touches_of_isRead rfl index, fun a => (asks_ofStore a).bind fun _ => ?_⟩
  exact ⟨Request.touches_of_index rfl, fun a => asks_ofStore a⟩

theorem safe_deleteIfThere {may : Request → Prop} (deletes : may (.store (.deleteIndex index))) :
    (deleteIfThere index).Safe may := by
  refine ⟨deletes, fun a => ?_⟩
  match a with
  | .ok () => trivial
  | .error e => cases e <;> trivial

private theorem asks_reclaim (record : Job.Record) (index : String) :
    (reclaim record index).Asks (Request.Touches index) := by
  unfold reclaim
  split
  · trivial
  · refine ⟨Request.touches_of_isRead rfl index, fun a => (asks_ofStore a).bind fun leftBehind => ?_⟩
    cases leftBehind with
    | false => trivial
    | true =>
      have deletes : (deleteIfThere index).Asks (Request.Touches index) :=
        (safe_deleteIfThere (Request.touches_of_index rfl)).asks
      show ((deleteIfThere index).bind fun removed => ofStore removed).Asks _
      exact deletes.bind fun removed => asks_ofStore removed

private theorem asks_createDataIndex (index : String) :
    (createDataIndex index).Asks (Request.Touches index) := by
  refine ⟨Request.touches_of_index rfl, fun a => ?_⟩
  match a with
  | .ok () => trivial
  | .error e => cases e <;> trivial

theorem asks_fill (r : Runner) (record : Job.Record) (feed : Feed.Metadata) (reader : Feed.Reader) :
    (r.fill record feed reader).Asks (Request.Touches (r.nextIndex record feed)) := by
  refine (asks_reclaim _ _).bind fun _ => (asks_createDataIndex _).bind fun _ => ?_
  refine ⟨fun _ _ => trivial, fun (reading : Reading) => ?_⟩
  have populates :=
    asks_populate (r.target record feed reading.instant) reader.rows reader.failure
  exact populates.bind fun _ => Asks.bind (asks_freeze _) fun _ => (trivial : (done _).Asks _)

section

variable {may : Request → Prop}

theorem safe_feedFor {job : String} (finds : may (.feedFor job)) :
    (Program.feedFor job).Safe may :=
  ⟨finds, fun answer => safe_ofExcept answer⟩

theorem safe_download {userAgent : String} {feed : Feed.Metadata}
    (sends : ∀ request, may (.http request)) : (Feed.download userAgent feed).Safe may := by
  unfold Feed.download
  cases Http.prepare .get feed.url [] with
  | error reason => trivial
  | ok request =>
    refine ⟨sends _, fun answer => ?_⟩
    match answer with
    | none => trivial
    | some reply =>
      show (Feed.openReply feed request.url reply).Safe _
      unfold Feed.openReply
      cases reply.statusError? request.url with
      | some reason => trivial
      | none => exact safe_ofExcept _

theorem safe_deleteIndices {indices : List String}
    (deletes : ∀ i ∈ indices, may (.store (.deleteIndex i))) : (deleteIndices indices).Safe may := by
  induction indices with
  | nil => trivial
  | cons index rest ih =>
    obtain ⟨first, others⟩ := List.forall_mem_cons.mp deletes
    refine (safe_deleteIfThere first).bind fun removed => ?_
    refine (ih others).attempt.bind fun rest => ?_
    exact (safe_ofStore removed).bind fun _ => safe_ofExcept rest

end

private theorem asks_poll (w : ShardWait) (index : String) (started polls : Nat) :
    (w.poll index started polls).Asks fun request => ∀ i, request.Spares i := by
  induction polls with
  | zero => exact ⟨fun _ => trivial, fun _ => trivial⟩
  | succ polls ih =>
    refine ⟨Request.spares_of_isRead rfl, fun a => ?_⟩
    match a with
    | .error _ => trivial
    | .ok shards =>
    show Program.Asks _ (if Store.allShardsStarted shards then _ else _)
    split
    · trivial
    · refine ⟨fun _ => trivial, fun (now : Nat) => ?_⟩
      show Program.Asks _ (if w.timeoutMillis ≤ now - started then _ else _)
      split
      · trivial
      · exact ⟨fun _ => trivial, fun _ => ⟨fun _ => trivial, fun _ => ih⟩⟩

theorem asks_wait (w : ShardWait) (index : String) :
    (w.run index).Asks fun request => ∀ i, request.Spares i :=
  Asks.bind ⟨fun _ => trivial, fun _ => trivial⟩ fun started =>
    asks_poll w index started (w.timeoutMillis + UInt64.size)

namespace Runner

variable {r : Runner} {allows : (r : Request) → r.Answer → Prop} {docs : List Json.Value}
  {x y : Moment × Lease}

theorem Serves.step {request : Request} {a : request.Answer} (serves : r.Serves index docs x)
    (spares : request.Spares index) (answered : r.held allows request x a y) :
    r.Serves index docs y :=
  let ⟨served, keeps, blocked, sources⟩ := serves
  ⟨served, keeps.step spares answered, blocked, sources⟩

private theorem Serves.shardStates (serves : r.Serves index docs x) :
    ∃ shards, x.1.store.shardStates index = .ok shards ∧
      (Store.allShardsStarted shards = false → index ∈ x.1.store.faults.stalledShards) := by
  obtain ⟨i, keeps, -, -⟩ := serves
  refine ⟨_, by simp [Memory.shardStates, Memory.requireIndex, keeps.contents]; rfl, ?_⟩
  by_cases stalled : index ∈ x.1.store.faults.stalledShards
  · exact fun _ => stalled
  · cases i.replicasExpanded <;> simp [Store.allShardsStarted, stalled]

private theorem along_poll (w : ShardWait) {started polls : Nat} (serves : r.Serves index docs x)
    (stalled : polls = 0 → index ∈ x.1.store.faults.stalledShards) :
    Along (r.held allows) Eq (fun _ _ => True) (Settles (fun _ y => r.Serves index docs y)
      fun _ y => y.1.store.faults.Spoils index) (w.poll index started polls) x := by
  induction polls generalizing x with
  | zero =>
    rintro _ rfl now y answered
    obtain ⟨-, rfl⟩ := held_of_other answered nofun nofun
    exact ⟨trivial, .inr (.inr (.inr (stalled rfl)))⟩
  | succ polls ih =>
    rintro _ rfl a y answered
    refine ⟨trivial, ?_⟩
    obtain ⟨shards, known, waits⟩ := serves.shardStates
    have serves := serves.step (Request.spares_of_isRead rfl index) answered
    rw [← held_faults answered] at waits
    obtain ⟨⟨store, answer, -⟩, -⟩ := answered
    obtain rfl : a = .ok shards := (congrArg Prod.fst answer).symm.trans known
    show Along _ _ _ _ (if Store.allShardsStarted shards then _ else _) y
    cases all : Store.allShardsStarted shards with
    | true => exact serves
    | false =>
    have stalled := waits all
    rintro _ rfl (now : Nat) z answered
    obtain ⟨-, rfl⟩ := held_of_other answered nofun nofun
    refine ⟨trivial, ?_⟩
    show Along _ _ _ _ (if w.timeoutMillis ≤ now - started then _ else _) z
    split
    · exact .inr (.inr (.inr stalled))
    rintro _ rfl _ y answered
    refine ⟨trivial, ?_⟩
    have spares : Request.renewLease.Spares index := trivial
    have serves := serves.step spares answered
    rw [← held_faults answered] at stalled
    rintro _ rfl _ z answered
    obtain ⟨-, rfl⟩ := held_of_other answered nofun nofun
    exact ⟨trivial, ih serves fun _ => stalled⟩

/-- A generation that has been built stays as it is while its shards start. -/
theorem along_wait (w : ShardWait) (serves : r.Serves index docs x) :
    Along (r.held allows) Eq (fun _ _ => True) (Settles (fun _ y => r.Serves index docs y)
      fun _ y => y.1.store.faults.Spoils index) (w.run index) x := by
  have clock : Along (r.held allows) Eq (fun _ _ => True)
      (Settles (fun _ y => r.Serves index docs y) fun _ _ => False) Program.stopwatch x := by
    rintro _ rfl now y answered
    obtain ⟨-, rfl⟩ := held_of_other answered nofun nofun
    exact ⟨trivial, serves⟩
  have polls : w.timeoutMillis + UInt64.size ≠ 0 := Nat.ne_of_gt (Nat.add_pos_right _ (by decide))
  exact clock.next (fun _ _ => False.elim) fun started y serves =>
    along_poll w serves fun none => absurd none polls

end Runner

end IndicatorFeeds

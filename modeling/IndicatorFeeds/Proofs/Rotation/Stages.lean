import IndicatorFeeds.Proofs.Rotation.Saved

/-!
A rotation from its first request to its last. Up to the gate it only looks; then it works at the
next index, serves it by writing its record, and removes what the record has listed before. Who
follows a rotation says what holds at each of these stages, and that what is done there keeps it.
-/

namespace IndicatorFeeds.Runner

open Store (Memory MemoryIndex Call)
open Program Rotation

variable {r : Runner} {allows : (r : Request) → r.Answer → Prop} {record : Job.Record}
  {own : Moment × Lease → Moment × Lease → Prop} {failureState : Job.State}
  {x y : Moment × Lease}

/-- Why a rotation fails before it works at an index: there is no feed, the feed is not opened, or
its header lacks a recorded field. -/
inductive Unfit (r : Runner) (allows : (r : Request) → r.Answer → Prop) (name : String)
    (fields : List String) : Error → Prop where
  | catalog {e : Error} (answer : allows (.feedFor name) (.error e)) :
      Unfit r allows name fields e
  | unlisted (answer : allows (.feedFor name) (.ok none)) :
      Unfit r allows name fields (.notFound s!"no feed configured for job {name}")
  | unread {feed : Feed.Metadata} {e : Error} (found : allows (.feedFor name) (.ok (some feed)))
      (unread : r.Unread allows feed e) : Unfit r allows name fields e
  | header {feed : Feed.Metadata} {reader : Feed.Reader} {e : Error}
      (found : allows (.feedFor name) (.ok (some feed))) (reads : r.Reads allows feed reader)
      (refused : Feed.checkHeader fields reader.fields = .error e) : Unfit r allows name fields e

/-- Why a rotation fails that works at an index: the feed breaks off, a fault spoils the index, or
its record is refused. -/
inductive Hindered (r : Runner) (allows : (r : Request) → r.Answer → Prop) (feed : Feed.Metadata)
    (index : String) (m : Memory) : Error → Prop where
  | body {reader : Feed.Reader} {e : Error} (reads : r.Reads allows feed reader)
      (broken : reader.failure = some e) : Hindered r allows feed index m e
  | fault {e : Error} (spoils : m.faults.Spoils index) : Hindered r allows feed index m e
  | record (blocked : m.isBlocked r.records.index = true) :
      Hindered r allows feed index m (.store (Memory.blocked r.records.index))

theorem afterFailure_name (record : Job.Record) (state : Job.State) (now : Instant) :
    (afterFailure record state now).name = record.name := by
  unfold afterFailure
  split <;> rfl

theorem afterFailure_indices (record : Job.Record) (state : Job.State) (now : Instant) :
    (afterFailure record state now).indices = record.indices := by
  unfold afterFailure
  split <;> rfl

section Served

variable (record : Job.Record) (generation : Generation) (millis : UInt64)
  (succeeded enabled : Instant)

theorem served_indices :
    ((swapped record generation millis succeeded).enable enabled).indices =
      record.indices.filter (· ≠ generation.index) ++ [generation.index] := by
  unfold Job.Record.enable
  split <;> rfl

theorem served_name :
    ((swapped record generation millis succeeded).enable enabled).name = record.name := by
  unfold Job.Record.enable
  split <;> rfl

end Served

/-- Nothing has been written to an index of data yet. -/
def Unwritten (r : Runner) (x : Moment × Lease) : Prop := ∀ i, r.Tracks i [] x

/-- The indices of a record that a generation replaces. -/
def stale (r : Runner) (record : Job.Record) (feed : Feed.Metadata) : List String :=
  record.indices.filter (· ≠ r.nextIndex record feed)

/-- What holds at each stage of a rotation of a record whose moves are some. -/
structure Stages (r : Runner) (allows : (r : Request) → r.Answer → Prop)
    (own : Moment × Lease → Moment × Lease → Prop) (record : Job.Record)
    (failureState : Job.State) where
  still : ∀ x, own x x
  renews : ∀ x y, r.leases.Renewed x y → own x y
  /-- The header of the feed has not been accepted yet. -/
  before : Moment × Lease → Prop
  renewed : ∀ feed x y, allows (.feedFor record.name) (.ok (some feed)) →
    r.leases.Renewed x y → before x → before y
  marks : ∀ (now : Instant) x y, Tells allows now → before x →
    r.Saved ({ record with state := inProgress record }.writtenAt now) x y → own x y ∧ before y
  /-- The next index is being worked at. -/
  building : Feed.Metadata → Moment × Lease → Prop
  begins : ∀ feed reader x, allows (.feedFor record.name) (.ok (some feed)) →
    r.Reads allows feed reader → Feed.checkHeader record.feedFields reader.fields = .ok () →
    before x → building feed x
  builds : ∀ feed request x a y, allows (.feedFor record.name) (.ok (some feed)) →
    request.Touches (r.nextIndex record feed) → building feed x → r.held allows request x a y →
    own x y ∧ building feed y
  /-- A record has been written that serves the next index. -/
  after : Feed.Metadata → Job.Record → Moment × Lease → Prop
  swaps : ∀ feed reader generation millis (succeeded enabled now : Instant) timestamp x y,
    allows (.feedFor record.name) (.ok (some feed)) → r.Reads allows feed reader →
    Feed.checkHeader record.feedFields reader.fields = .ok () → reader.failure = none → r.Roomy →
    generation.index = r.nextIndex record feed → generation.fields = reader.fields →
    Tells allows succeeded → Tells allows enabled → Tells allows now →
    r.Serves (r.nextIndex record feed) (feedDocuments feed timestamp reader.rows) x →
    building feed x →
    r.Saved (((swapped record generation millis succeeded).enable enabled).writtenAt now) x y →
    own x y ∧ after feed (((swapped record generation millis succeeded).enable enabled).writtenAt now) y
  removes : ∀ feed served index x a y, index ∈ r.stale record feed → after feed served x →
    r.held allows (.store (.deleteIndex index)) x a y → own x y ∧ after feed served y
  /-- The rotation is over. -/
  finished : Feed.Metadata → Moment × Lease → Prop
  clean : ∀ feed served x, r.stale record feed = [] → after feed served x → finished feed x
  tidies : ∀ feed served kept (now : Instant) x y, Tells allows now →
    kept = (r.stale record feed).filter (· ∈ x.1.store.faults.failingDeletion) →
    (∀ i ∈ r.stale record feed, i ∉ kept → x.1.store.indices.find? i = none) →
    after feed served x →
    r.Saved ({ served with indices := kept ++ [r.nextIndex record feed] }.writtenAt now) x y →
    own x y ∧ finished feed y
  untidied : ∀ feed served x, x.1.store.isBlocked r.records.index = true → after feed served x →
    finished feed x
  /-- The rotation has failed, and its record does not say so yet. -/
  broken : Error → Moment × Lease → Prop
  unfit : ∀ e x, r.Unfit allows record.name record.feedFields e → before x → broken e x
  hindered : ∀ feed e x, allows (.feedFor record.name) (.ok (some feed)) →
    r.Hindered allows feed (r.nextIndex record feed) x.1.store e → building feed x → broken e x
  failed : Error → Moment × Lease → Prop
  fails : ∀ e (now later : Instant) x y, Tells allows now → Tells allows later → broken e x →
    r.Saved ((afterFailure record failureState now).writtenAt later) x y → own x y ∧ failed e y
  unrecorded : ∀ e x, x.1.store.isBlocked r.records.index = true → broken e x → failed e x
  unmarked : ∀ x, x.1.store.isBlocked r.records.index = true → before x →
    failed (.store (Memory.blocked r.records.index)) x
  /-- The rotation has been aborted, since there is no room for a batch. -/
  aborted : Moment × Lease → Prop
  crowded : ∀ feed x, allows (.feedFor record.name) (.ok (some feed)) → ¬r.Roomy →
    building feed x → aborted x

namespace Stages

variable {stages : r.Stages allows own record failureState} {feed : Feed.Metadata}

/-- A fault aborts a rotation that has no room for a batch, and none does otherwise. -/
def Aborts (stages : r.Stages allows own record failureState) (f : Fault) (y : Moment × Lease) :
    Prop := r.Crowded f ∧ stages.aborted y

/-- What cannot be removed is kept, and everything else is gone. -/
private theorem along_removeAll {served : Job.Record} {indices : List String}
    (listed : ∀ i ∈ indices, i ∈ r.stale record feed) (start : stages.after feed served x) :
    Along (r.held allows) Eq own (Settles (fun kept y => stages.after feed served y ∧
      y.1.store.faults = x.1.store.faults ∧
      kept = indices.filter (· ∈ x.1.store.faults.failingDeletion) ∧
      (∀ i, x.1.store.indices.find? i = none → y.1.store.indices.find? i = none) ∧
      ∀ i ∈ indices, i ∉ kept → y.1.store.indices.find? i = none) fun _ _ => False)
      (removeAll indices) x := by
  induction indices generalizing x with
  | nil => exact ⟨start, rfl, rfl, fun _ => id, by simp⟩
  | cons index rest ih =>
    obtain ⟨known, others⟩ := List.forall_mem_cons.mp listed
    refine along_deleteIfThere_while (· = x) (fun _ _ same there => same ▸ there) rfl stages.still
      ?_ ?_
    · rintro _ rfl failing
      refine (ih others start).next (fun _ _ => False.elim) fun kept z ended => ?_
      obtain ⟨after, faults, rfl, still, removed⟩ := ended
      refine ⟨after, faults, by simp [failing, Except.isOk, Except.toBool], still,
        fun i member unkept => ?_⟩
      have other : i ∈ rest := by
        rcases List.mem_cons.mp member with rfl | member
        · exact absurd (List.mem_cons_self ..) unkept
        · exact member
      exact removed i other fun kept => unkept (List.mem_cons_of_mem _ kept)
    · rintro a _ y rfl answered working gone
      obtain ⟨moved, after⟩ := stages.removes feed served index _ a y known start answered
      refine ⟨moved, (ih others after).next (fun _ _ => False.elim) fun kept z ended => ?_⟩
      obtain ⟨after, faults, rfl, still, removed⟩ := ended
      have same := held_faults answered
      refine ⟨after, faults.trans same, ?_, fun i none => ?_, fun i member unkept => ?_⟩
      · simp [working, same, Except.isOk, Except.toBool]
      · exact still i (by rw [gone]; split <;> simp [none])
      · by_cases here : i = index
        · exact still i (by rw [gone, if_pos here])
        · exact removed i ((List.mem_cons.mp member).resolve_left here) unkept

/-- What the generation replaces is removed, and the record says what could not be. -/
private theorem along_cleanUp {served : Job.Record}
    (listed : served.indices =
      r.stale record feed ++ [r.nextIndex record feed]) (start : stages.after feed served x) :
    Along (r.held allows) Eq own (Settles (fun _ y => stages.finished feed y) fun _ _ => False)
      (r.rotation.cleanUp served) x := by
  have current : served.currentIndex = some (r.nextIndex record feed) := by
    rw [Job.Record.currentIndex, listed, List.getLast?_concat]
  have replaced : served.indices.filter (· ≠ r.nextIndex record feed) = r.stale record feed := by
    rw [listed, List.filter_append, stale, List.filter_filter]
    simp
  unfold Rotation.cleanUp
  rw [current]
  dsimp only
  rw [replaced]
  split
  · rename_i nothing
    exact stages.clean feed served x (List.isEmpty_iff.mp nothing) start
  · refine (along_removeAll (fun _ => id) start).next (fun _ _ => False.elim)
      fun kept y ⟨after, faults, all, _, gone⟩ => ?_
    refine along_bind_iff.mpr (along_save stages.still (fun now z allowed saved => ?_)
      fun now blocked => stages.untidied feed served y blocked after)
    exact stages.tidies feed served kept now y z allowed (faults ▸ all) gone after saved

private theorem along_build (found : allows (.feedFor record.name) (.ok (some feed)))
    (unwritten : r.Unwritten x) (start : stages.before x) :
    Along (r.held allows) Eq own
      (Concludes (fun generation y => stages.building feed y ∧
          generation.index = r.nextIndex record feed ∧
            ∃ reader timestamp, r.Reads allows feed reader ∧
              Feed.checkHeader record.feedFields reader.fields = .ok () ∧ reader.failure = none ∧
                r.Roomy ∧ generation.fields = reader.fields ∧
                  r.Serves generation.index (feedDocuments feed timestamp reader.rows) y)
        stages.broken stages.Aborts) (KeepAlive.during (r.rotation.build record feed)) x := by
  have renewed {y z : Moment × Lease} (renewals : (r.held allows).renewals y z)
      (start : stages.before y) : stages.before z :=
    kept_renewals stages.before (fun y z renewal => stages.renewed feed y z found renewal)
      renewals start
  have working {y z : Moment × Lease} (renewals : (r.held allows).renewals y z)
      (start : stages.building feed y) : stages.building feed z :=
    kept_renewals (stages.building feed) (fun y z renewal building =>
      (stages.builds feed .renewLease y () z found (fun _ _ => trivial) building renewal).2)
      renewals start
  refine Along.during stages.renews (fun y a z answered =>
    (held_of_other answered nofun nofun).2) stages.still ?_
  rw [build_eq]
  let ready (y : Moment × Lease) : Prop := stages.before y ∧ r.Tracks (r.nextIndex record feed) [] y
  have downloads : Along (r.held allows) (r.held allows).renewals own
      (Settles (fun reader y => r.Reads allows feed reader ∧ ready y)
        fun e y => r.Unread allows feed e ∧ ready y)
      (Feed.download r.config.fetch.userAgent feed) x := by
    refine along_download (fun y z renewals ⟨before, tracks⟩ => ?_)
      (fun request y a z answered holds => ?_) ⟨start, unwritten _⟩
    · exact ⟨renewed renewals before, tracks.renewals renewals⟩
    · obtain ⟨allowed, rfl⟩ := held_of_other answered nofun nofun
      exact ⟨stages.still _, holds, allowed⟩
  refine downloads.next (fun e y ⟨unread, before, _⟩ => stages.unfit e y (.unread found unread) before)
    fun reader y ⟨reads, before, tracks⟩ => ?_
  cases gate : Feed.checkHeader record.feedFields reader.fields with
  | error e => exact stages.unfit e y (.header found reads gate) before
  | ok =>
  have begun := stages.begins feed reader y found reads gate before
  have keeps := (asks_fill r record feed reader).keeping (stages.building feed)
    (fun request y a z touches building answered =>
      stages.builds feed request y a z found touches building answered)
    (fun _ _ renewals building => working renewals building) begun
  refine (keeps.and (along_fill tracks)).mono (fun _ _ => id) (fun _ _ => And.left)
    fun result z ⟨building, ended⟩ => ?_
  match result with
  | .ok generation =>
    obtain ⟨index, fields, whole, roomy, timestamp, serves⟩ := ended
    exact ⟨building, index, reader, timestamp, reads, gate, whole, roomy, fields, serves⟩
  | .error (.error e) =>
    rcases ended with broken | spoils
    · exact stages.hindered feed e z found (.body reads broken) building
    · exact stages.hindered feed e z found (.fault spoils) building
  | .error (.fault f) => exact ⟨ended, stages.crowded feed z found ended.2 building⟩

private theorem along_wait (found : allows (.feedFor record.name) (.ok (some feed)))
    (w : ShardWait) {docs : List Json.Value} (serves : r.Serves (r.nextIndex record feed) docs x)
    (start : stages.building feed x) :
    Along (r.held allows) Eq own
      (Settles (fun _ y => stages.building feed y ∧ r.Serves (r.nextIndex record feed) docs y)
        stages.broken) (w.run (r.nextIndex record feed)) x := by
  have kept : ∀ y z : Moment × Lease, y = z → stages.building feed y → stages.building feed z :=
    fun _ _ same building => same ▸ building
  have keeps := (asks_wait w (r.nextIndex record feed)).keeping (stages.building feed)
    (fun request y a z spares building answered =>
      stages.builds feed request y a z found (fun i _ => spares i) building answered) kept start
  refine (keeps.and (Runner.along_wait w serves)).mono (fun _ _ => id) (fun _ _ => And.left)
    fun result y ended => ended.2.mono (fun _ serves => ⟨ended.1, serves⟩) fun e spoils => ?_
  exact stages.hindered feed e y found (.fault spoils) ended.1

/-- A rotation serves its generation, or has failed. -/
theorem along_rotate (found : allows (.feedFor record.name) (.ok (some feed)))
    (unwritten : r.Unwritten x) (start : stages.before x) :
    Along (r.held allows) Eq own
      (Concludes (fun served y => served.1.index = r.nextIndex record feed ∧ stages.finished feed y)
        stages.broken stages.Aborts) (r.rotation.rotate record feed) x := by
  refine along_ask stages.still nofun nofun fun (started : Nat) _ => ?_
  show Along _ _ _ _ ((KeepAlive.during (r.rotation.build record feed)).bind _) x
  refine (along_build found unwritten start).continued (fun _ _ => id) (fun _ _ => id)
    fun generation y ⟨building, index, reader, timestamp, reads, gate, whole, roomy, fields,
      serves⟩ => ?_
  rw [index] at serves
  show Along _ _ _ _ (((ShardWait.ofConfig r.config.rotation).run generation.index).bind _) y
  rw [index]
  refine (along_wait found _ serves building).next (fun _ _ => id)
    fun _ z ⟨building, serves⟩ => ?_
  refine along_ask stages.still nofun nofun fun (ended : Nat) _ => ?_
  refine along_now stages.still fun succeeded allowed => ?_
  refine along_now stages.still fun enabled allowed' => ?_
  show Along _ _ _ _ ((r.records.update ((swapped record generation
    (UInt64.ofNat (ended - started)) succeeded).enable enabled)).bind _) z
  refine along_bind_iff.mpr (along_bind_iff.mpr (along_save stages.still
    (fun now z' allowed'' saved => ?_) fun now blocked => ?_))
  · obtain ⟨moved, after⟩ := stages.swaps feed reader generation _ succeeded enabled now timestamp
      z z' found reads gate whole roomy index fields allowed allowed' allowed'' serves building saved
    refine ⟨moved, ?_⟩
    let served := ((swapped record generation (UInt64.ofNat (ended - started)) succeeded).enable
      enabled).writtenAt now
    have listed : served.indices = r.stale record feed ++ [r.nextIndex record feed] :=
      (served_indices record generation _ succeeded enabled).trans (by rw [index]; rfl)
    have cleaned : Along (r.held allows) Eq own
        (Settles (fun _ y => stages.finished feed y) fun _ _ => False)
        (r.rotation.cleanUp served) z' := along_cleanUp listed after
    exact cleaned.next (fun _ _ => False.elim) fun _ _ finished => ⟨rfl, finished⟩
  · exact stages.hindered feed _ z found (.record blocked) building

section Marked

variable (record : Job.Record) (state : Job.State) (now later : Instant)

private theorem afterFailure_marked (failureState : Job.State) (failedAt : Instant) :
    (afterFailure ({ record with state }.writtenAt now) failureState failedAt).writtenAt later =
      (afterFailure record failureState failedAt).writtenAt later := by
  unfold afterFailure
  split <;> rfl

private theorem swapped_marked (generation : Generation) (millis : UInt64)
    (succeeded enabled : Instant) :
    ((swapped ({ record with state }.writtenAt now) generation millis succeeded).enable
      enabled).writtenAt later =
        ((swapped record generation millis succeeded).enable enabled).writtenAt later := by
  by_cases on : record.updateEnabled <;>
    simp [Job.Record.enable, swapped, Job.Record.recordSuccess, Job.Record.pushCurrentIndex,
      Job.Record.writtenAt, on]

end Marked

/-- The stages of a record are those of the record that has been marked. -/
private def marked (stages : r.Stages allows own record failureState) (state : Job.State)
    (now : Instant) : r.Stages allows own ({ record with state }.writtenAt now) failureState :=
  { stages with
    swaps := fun feed reader generation millis succeeded enabled later timestamp x y found reads
        gate whole roomy index fields allowed allowed' allowed'' serves building saved => by
      rw [swapped_marked] at saved ⊢
      exact stages.swaps feed reader generation millis succeeded enabled later timestamp x y found
        reads gate whole roomy index fields allowed allowed' allowed'' serves building saved
    fails := fun e failedAt later x y allowed allowed' broken saved => by
      rw [afterFailure_marked] at saved
      exact stages.fails e failedAt later x y allowed allowed' broken saved }

/-- How a run ends that has rotated the data of a record. -/
def Ended (stages : r.Stages allows own record failureState) : Outcome → Moment × Lease → Prop
  | .refreshed index, y => ∃ feed, allows (.feedFor record.name) (.ok (some feed)) ∧
    index = r.nextIndex record feed ∧ stages.finished feed y
  | .failed reason, y => ∃ e, reason = Error.message e ∧ stages.failed e y
  | _, _ => False

private theorem along_rotateRecord (stages : r.Stages allows own record failureState)
    (unwritten : r.Unwritten x) (start : stages.before x) :
    Along (r.held allows) Eq own
      (Concludes (fun index y => ∃ feed, allows (.feedFor record.name) (.ok (some feed)) ∧
        index = r.nextIndex record feed ∧ stages.finished feed y) stages.broken stages.Aborts)
      (r.rotateRecord record) x := by
  refine along_feedFor stages.still (fun e answer => stages.unfit e x (.catalog answer) start)
    fun feed found => ?_
  match feed with
  | none => exact stages.unfit _ x (.unlisted found) start
  | some feed =>
  exact (along_rotate found unwritten start).continued (fun _ _ => id) (fun _ _ => id)
    fun served y ⟨index, finished⟩ => ⟨feed, found, index, finished⟩

/-- A rotation that has failed is recorded, if records can be written. -/
private theorem along_settle (stages : r.Stages allows own record failureState)
    (unwritten : r.Unwritten x) (start : stages.before x) :
    Along (r.held allows) Eq own (Concludes stages.Ended (fun _ _ => False) stages.Aborts)
      ((r.rotateRecord record).attempt.bind fun result => match result with
        | .ok index => done (.refreshed index)
        | .error e => Program.now.bind fun now =>
          (r.saveQuietly (afterFailure record failureState now)).bind
            fun _ => done (.failed e.message)) x := by
  refine along_bind_iff.mpr (along_attempt_iff.mpr
    ((along_rotateRecord stages unwritten start).weaken fun result y ended => ?_))
  match result with
  | .ok index => exact ended
  | .error (.fault f) => exact ended
  | .error (.error e) =>
  have broken : stages.broken e y := ended
  refine along_now stages.still fun now allowed => ?_
  show Along _ _ _ _ ((r.saveQuietly (afterFailure record failureState now)).bind _) y
  refine along_bind_iff.mpr (along_saveQuietly stages.still (fun later z allowed' saved => ?_)
    fun blocked => ⟨e, rfl, stages.unrecorded e y blocked broken⟩)
  obtain ⟨moved, failed⟩ := stages.fails e now later y z allowed allowed' broken saved
  exact ⟨moved, e, rfl, failed⟩

/-- A run that has the lease of its job ends with its generation served, or has failed. -/
theorem along_executeRotation (stages : r.Stages allows own record failureState)
    (unwritten : r.Unwritten x) (start : stages.before x) :
    Along (r.held allows) Eq own (Concludes stages.Ended (fun _ _ => False) stages.Aborts)
      (r.executeRotation record failureState) x := by
  unfold Runner.executeRotation
  by_cases same : record.state = inProgress record
  · simp only [same, if_true]
    exact stages.along_settle unwritten start
  · simp only [same, if_false]
    show Along _ _ _ _ ((r.records.save { record with state := inProgress record }).bind _) x
    refine along_bind_iff.mpr (along_save stages.still (fun now y allowed saved => ?_)
      fun now blocked => ⟨_, rfl, stages.unmarked x blocked start⟩)
    obtain ⟨moved, before⟩ := stages.marks now x y allowed start saved
    have unwritten : r.Unwritten y := fun i => saved.tracks (unwritten i)
    exact ⟨moved, (stages.marked (inProgress record) now).along_settle unwritten before⟩

end Stages

end IndicatorFeeds.Runner

import IndicatorFeeds.Proofs.Rotation.Moment

/-!
Building a generation. Whatever was in an index of its name, and whenever the lease is renewed
meanwhile, a generation that has been built holds the documents of the rows that were read and
nothing else, and takes no further writes. A build fails for its feed or for a fault that the store
has been given, and for nothing else.
-/

/-- A fault keeps an index from being filled, or from being ready then. -/
def IndicatorFeeds.Store.Faults.Spoils (f : IndicatorFeeds.Store.Faults) (index : String) : Prop :=
  index ∈ f.failingCreation ∨ index ∈ f.failingDeletion ∨ index ∈ f.failingBulkWrites ∨
    index ∈ f.stalledShards

namespace IndicatorFeeds.Runner

open Store (Memory MemoryIndex Call BulkItem)
open Program Rotation

variable {r : Runner} {allows : (r : Request) → r.Answer → Prop} {index : String}
  {docs : List Json.Value} {x y : Moment × Lease}

/-- An index that takes writes has just these documents, and the store has assigned their ids. -/
def Fills (r : Runner) (index : String) (docs : List Json.Value) (x : Moment × Lease) : Prop :=
  ∃ i, r.Keeps index (some i) docs x ∧ i.writeBlocked = false ∧ i.sources.Perm docs ∧
    i.Assigned x.1.store.lastSeqNo

/-- An index that takes no writes has just these documents. -/
def Serves (r : Runner) (index : String) (docs : List Json.Value) (x : Moment × Lease) : Prop :=
  ∃ i, r.Keeps index (some i) docs x ∧ i.writeBlocked = true ∧ i.sources.Perm docs

theorem renewals_grow (renewals : (r.held allows).renewals x y) :
    x.1.store.lastSeqNo ≤ y.1.store.lastSeqNo := by
  induction renewals with
  | refl => exact Nat.le_refl _
  | @tail y z _ renewed ih =>
    have renewed : r.held allows .renewLease y () z := renewed
    exact Nat.le_trans ih (held_grows renewed)

theorem Fills.renewals (fills : r.Fills index docs x) (renewals : (r.held allows).renewals x y) :
    r.Fills index docs y :=
  let ⟨i, keeps, writable, sources, assigned⟩ := fills
  ⟨i, keeps.renewals renewals, writable, sources, assigned.le (renewals_grow renewals)⟩

theorem Fills.step {request : Request} {a : request.Answer} (fills : r.Fills index docs x)
    (spares : request.Spares index) (answered : r.held allows request x a y) :
    r.Fills index docs y :=
  let ⟨i, keeps, writable, sources, assigned⟩ := fills
  ⟨i, keeps.step spares answered, writable, sources, assigned.le (held_grows answered)⟩

theorem Fills.bulkIndex {items : List BulkItem} (fills : r.Fills index docs x)
    (anonymous : ∀ item ∈ items, item.id = none)
    (answered : r.held allows (.store (.bulkIndex index items)) x (.ok ()) y) :
    r.Fills index (docs ++ items.map (·.source)) y := by
  obtain ⟨i, keeps, writable, sources, assigned⟩ := fills
  have tracks := keeps.toTracks.call answered
  rw [show Moment.additions (.bulkIndex index items) (.ok ()) index = items.map (·.source) from
    if_pos rfl] at tracks
  obtain ⟨⟨store, answer, same⟩, lease⟩ := answered
  rcases Memory.changed_cases answer with ⟨-, written⟩ | ⟨e, refused, -⟩
  · obtain ⟨-, -, rfl⟩ := Memory.bulkIndex_eq_ok_iff.mp written
    obtain ⟨i', found, blocked, sources', assigned'⟩ :=
      Memory.foldl_writeItem_sources keeps.contents assigned anonymous
    refine ⟨i', ⟨tracks, by rw [same]; exact found, fun here id stored there => ?_⟩,
      blocked.trans writable, sources'.trans (sources.append_right _), by rw [same]; exact assigned'⟩
    rw [lease]
    have stored' : (items.foldl (Memory.writeItem index) x.1.store).document? index id =
        some stored := by
      rw [Memory.document?, found]
      exact there
    rcases (Memory.Change.written items).document? stored' with old | ⟨new, -⟩
    · rw [Memory.document?, keeps.contents] at old
      exact keeps.apart here id stored old
    · exact fun current => Nat.not_lt_of_le keeps.issued (current ▸ new)
  · cases refused

theorem Fills.refused {items : List BulkItem} {e : Store.Error} (fills : r.Fills index docs x)
    (answered : r.held allows (.store (.bulkIndex index items)) x (.error e) y) :
    y.1.store.faults.Spoils index := by
  obtain ⟨i, keeps, writable, -, -⟩ := fills
  obtain ⟨⟨store, answer, same⟩, -⟩ := answered
  rcases Memory.changed_cases answer with ⟨accepted, -⟩ | ⟨_, -, refused, rfl⟩
  · cases accepted
  · rw [same]
    rcases Memory.bulkIndex_eq_error refused with failing | missing | blocked
    · exact .inr (.inr (.inl failing))
    · cases keeps.contents.symm.trans missing
    · simp [Memory.isBlocked, keeps.contents, writable] at blocked

private theorem along_write {t : Target} {batch : Array BulkItem} (fills : r.Fills t.index docs x)
    (anonymous : ∀ item ∈ batch.toList, item.id = none) :
    Along (r.held allows) (r.held allows).renewals (fun _ _ => True)
      (Settles (fun _ y => r.Fills t.index (docs ++ batch.toList.map (·.source)) y)
        fun _ y => y.1.store.faults.Spoils t.index) (t.write batch) x := by
  intro y renewals a z answered
  refine ⟨trivial, ?_⟩
  match a with
  | .ok () => exact (fills.renewals renewals).bulkIndex anonymous answered
  | .error _ => exact (fills.renewals renewals).refused answered

private theorem along_finish {t : Target} {batch : Array BulkItem} {counts : RowCounts}
    (fills : r.Fills t.index docs x) (anonymous : ∀ item ∈ batch.toList, item.id = none) :
    Along (r.held allows) (r.held allows).renewals (fun _ _ => True)
      (Settles (fun _ y => r.Fills t.index (docs ++ batch.toList.map (·.source)) y)
        fun _ y => y.1.store.faults.Spoils t.index) (t.finish batch counts) x := by
  unfold Target.finish
  by_cases empty : batch.isEmpty
  · have nothing : batch.toList = [] := by simpa using empty
    rw [if_pos empty]
    show r.Fills t.index (docs ++ batch.toList.map (·.source)) x
    simpa [nothing] using fills
  · rw [if_neg empty]
    exact (along_write fills anonymous).next (fun _ _ => id) fun _ _ written => written

/-- The documents of rows. -/
def documents (t : Target) (rows : List Feed.Row) : List Json.Value :=
  (rows.filterMap (Feed.indicator? · t.column)).map t.document

/-- The rows that follow a batch add the batch and their own documents. They fail where the feed
does, or for a fault. -/
theorem along_populateFrom {t : Target} {failure : Option Error} {batch : Array BulkItem}
    {counts : RowCounts} {rows : List Feed.Row} (fills : r.Fills t.index docs x)
    (anonymous : ∀ item ∈ batch.toList, item.id = none) :
    Along (r.held allows) (r.held allows).renewals (fun _ _ => True)
      (Settles (fun _ y => failure = none ∧
          r.Fills t.index (docs ++ batch.toList.map (·.source) ++ documents t rows) y)
        fun e y => failure = some e ∨ y.1.store.faults.Spoils t.index)
      (t.populateFrom failure batch counts rows) x := by
  induction rows generalizing docs batch counts x with
  | nil =>
    cases failure with
    | some e => exact .inl rfl
    | none =>
      refine (along_finish fills anonymous).weaken fun result y ended => ended.mono ?_ fun _ => .inr
      exact fun _ filled => ⟨rfl, by simpa [documents] using filled⟩
  | cons row rest ih =>
    unfold Target.populateFrom
    cases cell : Feed.indicator? row t.column with
    | none =>
      have skips : documents t (row :: rest) = documents t rest := by simp [documents, cell]
      rw [skips]
      exact ih fills anonymous
    | some value =>
      have adds : documents t (row :: rest) = t.document value :: documents t rest := by
        simp [documents, cell]
      have pushed : ∀ item ∈ (batch.push ⟨none, t.document value⟩).toList, item.id = none := by
        simpa [or_imp, forall_and] using anonymous
      rw [adds]
      dsimp only
      split
      · refine (ih fills pushed).weaken fun result y ended => ended.mono ?_ fun _ => id
        exact fun _ filled => by simpa using filled
      · refine (along_write fills pushed).next (fun _ _ => .inr) fun _ y written => ?_
        refine (ih written (by simp)).weaken fun result y ended => ended.mono ?_ fun _ => id
        exact fun _ filled => by simpa using filled

private theorem along_look {c : Call} (value : c.Result) {next : c.Answer → Program α}
    {ends : Except Failure α → Moment × Lease → Prop} (looks : c.isRead)
    (accepted : ∀ (m : Memory) i, m.requireIndex index = .ok i → (m.answer c).1 = .ok value)
    (fills : r.Fills index docs x)
    (rest : ∀ y, r.Fills index docs y →
      Along (r.held allows) (r.held allows).renewals (fun _ _ => True) ends (next (.ok value)) y) :
    Along (r.held allows) (r.held allows).renewals (fun _ _ => True) ends (.ask (.store c) next) x := by
  intro y renewals a z answered
  have before := fills.renewals renewals
  have after := before.step (Request.spares_of_isRead looks index) answered
  obtain ⟨i, keeps, -⟩ := before
  have there : y.1.store.requireIndex index = .ok i := by
    simp [Memory.requireIndex, keeps.contents]
  obtain ⟨⟨store, answer, -⟩, -⟩ := answered
  obtain rfl : a = .ok value := (congrArg Prod.fst answer).symm.trans (accepted _ i there)
  exact ⟨trivial, rest z after⟩

/-- Closing an index for writes leaves its documents. An index that is there can be closed. -/
theorem along_freeze (fills : r.Fills index docs x) :
    Along (r.held allows) (r.held allows).renewals (fun _ _ => True)
      (Settles (fun _ y => r.Serves index docs y) fun _ _ => False) (freeze index) x := by
  have looks (m : Memory) (i : MemoryIndex) (there : m.requireIndex index = .ok i) :
      (m.requireIndex index).map (fun _ => ()) = .ok () := by
    simp [there, Except.map]
  refine along_look (c := .refreshIndex index) () rfl looks fills fun y fills => ?_
  refine along_look (c := .forceMerge index 1) () rfl looks fills fun y fills => ?_
  intro y renewals a z answered
  refine ⟨trivial, ?_⟩
  obtain ⟨i, keeps, -, sources, -⟩ := fills.renewals renewals
  have answered' := answered
  obtain ⟨⟨store, answer, same⟩, lease⟩ := answered
  rcases Memory.changed_cases answer with ⟨rfl, closed⟩ | ⟨e, rfl, refused, -⟩
  · have tracks := keeps.toTracks.call_nothing answered' rfl
    obtain ⟨found, present, rfl⟩ := Memory.updateSettings_eq_ok_iff.mp closed
    obtain rfl := Option.some.inj (keeps.contents.symm.trans present)
    refine ⟨{ i with writeBlocked := true, replicasExpanded := true },
      ⟨tracks, ?_, ?_⟩, rfl, sources⟩
    · rw [same]
      exact Store.Table.find?_insert_self _ _ _
    · rw [lease]
      exact keeps.apart
  · have possible : y.1.store.updateSettings index .freeze = .ok _ :=
      Memory.updateSettings_eq_ok_iff.mpr ⟨i, keeps.contents, rfl⟩
    cases refused.symm.trans possible

theorem along_deleteIfThere (tracks : r.Tracks index docs x) :
    Along (r.held allows) (r.held allows).renewals (fun _ _ => True)
      (Settles (fun removed y => match removed with
        | .ok () => r.Keeps index none docs y
        | .error _ => y.1.store.faults.Spoils index) fun _ _ => False) (deleteIfThere index) x := by
  intro y renewals a z answered
  refine ⟨trivial, ?_⟩
  have tracks := (tracks.renewals renewals).call_nothing answered rfl
  obtain ⟨⟨store, answer, same⟩, lease⟩ := answered
  have gone (missing : store.indices.find? index = none) : r.Keeps index none docs z :=
    ⟨tracks, by rw [same]; exact missing, by simp⟩
  rcases Memory.changed_cases answer with ⟨rfl, deleted⟩ | ⟨e, rfl, refused, rfl⟩
  · obtain ⟨-, -, rfl⟩ := Memory.deleteIndex_eq_ok_iff.mp deleted
    exact gone (Store.Table.find?_erase_self _ _)
  · rcases Memory.deleteIndex_eq_error_iff.mp refused with ⟨failing, rfl⟩ | ⟨-, missing, rfl⟩
    · have failing : z.1.store.faults.Spoils index := by
        rw [same]
        exact .inr (.inl failing)
      exact failing
    · exact gone missing

/-- Whatever an earlier rotation has left behind under the name is removed. -/
theorem along_reclaim {record : Job.Record} (next : record.currentIndex ≠ some index)
    (tracks : r.Tracks index docs x) :
    Along (r.held allows) (r.held allows).renewals (fun _ _ => True)
      (Settles (fun _ y => r.Keeps index none docs y) fun _ y => y.1.store.faults.Spoils index)
      (reclaim record index) x := by
  unfold reclaim
  rw [if_neg next]
  intro y renewals a z answered
  refine ⟨trivial, ?_⟩
  have tracks := tracks.renewals renewals
  obtain ⟨rfl, rfl⟩ := eq_of_held_read rfl answered
  show Along _ _ _ _ (if z.1.store.indices.contains index then
    (deleteIfThere index).bind fun removed => ofStore removed else done ()) z
  cases known : z.1.store.indices.contains index with
  | false =>
    have missing : z.1.store.indices.find? index = none :=
      Option.not_isSome_iff_eq_none.mp (ne_true_of_eq_false known)
    exact ⟨tracks, missing, by simp⟩
  | true =>
    refine (along_deleteIfThere tracks).next (fun _ _ => False.elim) fun removed y ended => ?_
    match removed with
    | .ok () => exact ended
    | .error _ => exact ended

theorem along_createDataIndex (keeps : r.Keeps index none docs x) (nothing : docs = []) :
    Along (r.held allows) (r.held allows).renewals (fun _ _ => True)
      (Settles (fun _ y => r.Fills index [] y) fun _ y => y.1.store.faults.Spoils index)
      (createDataIndex index) x := by
  subst nothing
  intro y renewals a z answered
  refine ⟨trivial, ?_⟩
  have keeps := keeps.renewals renewals
  have tracks := keeps.toTracks.call_nothing answered rfl
  obtain ⟨⟨store, answer, same⟩, lease⟩ := answered
  rcases Memory.changed_cases answer with ⟨rfl, created⟩ | ⟨e, rfl, refused, rfl⟩
  · obtain ⟨-, -, rfl⟩ := Memory.createIndex_eq_ok_iff.mp created
    have contents : z.1.store.indices.find? index = some (Memory.freshIndex false) := by
      rw [same]
      exact Store.Table.find?_insert_self _ _ _
    have empty (id : String) : (Memory.freshIndex false).documents.find? id = none := by
      simp [Memory.freshIndex]
    refine ⟨Memory.freshIndex false, ⟨tracks, contents, fun _ id _ there => ?_⟩, rfl, .refl _,
      fun id _ there => ?_⟩
    · cases (empty id).symm.trans there
    · cases (empty id).symm.trans there
  · rcases Memory.createIndex_eq_error_iff.mp refused with ⟨failing, rfl⟩ | ⟨-, there, rfl⟩
    · have failing : z.1.store.faults.Spoils index := by
        rw [same]
        exact .inl failing
      exact failing
    · exact absurd keeps.contents there

/-- This is what is sent for a feed. -/
def Sends (r : Runner) (feed : Feed.Metadata) (request : Http.Request) : Prop :=
  ∃ plain, Http.prepare .get feed.url [] = .ok plain ∧
    request = { plain with userAgent := some r.config.fetch.userAgent }

/-- The feed has been read so. -/
def Reads (r : Runner) (allows : (r : Request) → r.Answer → Prop) (feed : Feed.Metadata)
    (reader : Feed.Reader) : Prop :=
  ∃ request reply, r.Sends feed request ∧ allows (.http request) (some reply) ∧
    Feed.Reader.ofLines feed (.ofReply reply) = .ok reader

/-- The name that the next generation of a job gets. -/
def nextIndex (r : Runner) (record : Job.Record) (feed : Feed.Metadata) : String :=
  nextName (baseName r.config.rotation.dataIndexPrefix record.name feed.feedId) record.currentIndex

theorem nextIndex_ne_current (r : Runner) (record : Job.Record) (feed : Feed.Metadata) :
    record.currentIndex ≠ some (r.nextIndex record feed) := by
  intro current
  unfold nextIndex nextName at current
  split at current
  · rename_i first
    rw [first, Option.some.injEq] at current
    simp [firstSuffix, secondSuffix] at current
  · rename_i other
    exact other current

/-- What the generation of a feed holds, if it is loaded at this time. -/
def feedDocuments (feed : Feed.Metadata) (timestamp : Instant) (rows : List Feed.Row) :
    List Json.Value :=
  (rows.filterMap (Feed.indicator? · feed.indicatorColumn.toNat)).map
    (indicatorDocument feed timestamp)

/-- What a build fills. -/
def target (r : Runner) (record : Job.Record) (feed : Feed.Metadata) (timestamp : Instant) :
    Target where
  index := r.nextIndex record feed
  document := indicatorDocument feed timestamp
  column := feed.indicatorColumn.toNat
  batchSize := max r.config.rotation.batchSize.toNat 1

/-- Why a feed is not opened: it cannot be asked for, nothing comes back, or what comes back is no
success or no feed. -/
inductive Unread (r : Runner) (allows : (r : Request) → r.Answer → Prop) (feed : Feed.Metadata) :
    Error → Prop where
  | address {reason : String} (unsendable : Http.prepare .get feed.url [] = .error reason) :
      Unread r allows feed (.fetch reason)
  | silence {request : Http.Request} (sends : r.Sends feed request)
      (unanswered : allows (.http request) none) :
      Unread r allows feed (.fetch (Http.unanswered request.url))
  | status {request : Http.Request} {reply : Http.Reply} {reason : String}
      (sends : r.Sends feed request) (replied : allows (.http request) (some reply))
      (refused : reply.statusError? request.url = some reason) :
      Unread r allows feed (.fetch reason)
  | content {request : Http.Request} {reply : Http.Reply} {e : Error}
      (sends : r.Sends feed request) (replied : allows (.http request) (some reply))
      (unreadable : Feed.Reader.ofLines feed (.ofReply reply) = .error e) :
      Unread r allows feed e

theorem along_download {σ : Type} {env : Surroundings σ} {others own : σ → σ → Prop}
    {holds : σ → Prop} {feed : Feed.Metadata} {s : σ}
    (kept : ∀ s t, others s t → holds s → holds t)
    (asks : ∀ request s a t, env (.http request) s a t → holds s →
      own s t ∧ holds t ∧ allows (.http request) a) (start : holds s) :
    Along env others own (Settles (fun reader t => r.Reads allows feed reader ∧ holds t)
      fun e t => r.Unread allows feed e ∧ holds t)
      (Feed.download r.config.fetch.userAgent feed) s := by
  unfold Feed.download
  cases prepared : Http.prepare .get feed.url [] with
  | error => exact ⟨.address prepared, start⟩
  | ok request =>
  have sends : r.Sends feed { request with userAgent := some r.config.fetch.userAgent } :=
    ⟨request, prepared, rfl⟩
  intro t moved reply u answered
  obtain ⟨own, after, allowed⟩ := asks _ t reply u answered (kept s t moved start)
  refine ⟨own, ?_⟩
  match reply with
  | none =>
    have silence := Unread.silence sends allowed
    exact ⟨silence, after⟩
  | some reply =>
  show Along _ _ _ _ (Feed.openReply feed request.url reply) u
  unfold Feed.openReply
  cases refused : reply.statusError? request.url with
  | some =>
    have status := Unread.status sends allowed refused
    exact ⟨status, after⟩
  | none =>
  cases opened : Feed.Reader.ofLines feed (.ofReply reply) with
  | error => exact ⟨.content sends allowed opened, after⟩
  | ok reader => exact ⟨⟨_, reply, sends, allowed, opened⟩, after⟩

/-- There is room for a whole batch. -/
def Roomy (r : Runner) : Prop := r.config.rotation.batchSize.toNat ≤ maxBatch

/-- A build is aborted by this fault, since there is no room for a whole batch. -/
def Crowded (r : Runner) (f : Fault) : Prop := f = .capacityOverflow ∧ ¬r.Roomy

theorem populate_eq (r : Runner) (record : Job.Record) (feed : Feed.Metadata) (timestamp : Instant)
    (rows : List Feed.Row) (failure : Option Error) :
    (r.target record feed timestamp).populate rows failure =
      if maxBatch < r.config.rotation.batchSize.toNat then .fail (.fault .capacityOverflow)
      else (r.target record feed timestamp).populateFrom failure #[] ⟨0, 0⟩ rows := by
  have same : maxBatch < (r.target record feed timestamp).batchSize ↔
      maxBatch < r.config.rotation.batchSize.toNat := by
    show maxBatch < max _ 1 ↔ _
    unfold maxBatch
    omega
  unfold Target.populate
  simp only [same]

/-- What a build does with a feed whose header has been accepted. -/
def fill (r : Runner) (record : Job.Record) (feed : Feed.Metadata) (reader : Feed.Reader) :
    Program Generation :=
  (reclaim record (r.nextIndex record feed)).bind fun _ =>
    (createDataIndex (r.nextIndex record feed)).bind fun _ =>
      Program.now.bind fun timestamp =>
        ((r.target record feed timestamp).populate reader.rows reader.failure).bind fun counts =>
          (freeze (r.nextIndex record feed)).bind fun _ =>
            done ⟨r.nextIndex record feed, reader.fields, counts⟩

theorem build_eq (r : Runner) (record : Job.Record) (feed : Feed.Metadata) :
    r.rotation.build record feed =
      (Feed.download r.config.fetch.userAgent feed).bind fun reader =>
        (ofExcept (Feed.checkHeader record.feedFields reader.fields)).bind fun _ =>
          r.fill record feed reader := rfl

/-- Only a feed that can be read to its end becomes a generation, and all of its rows do, if there is
room for a batch of them. -/
theorem along_fill {record : Job.Record} {feed : Feed.Metadata} {reader : Feed.Reader}
    (tracks : r.Tracks (r.nextIndex record feed) [] x) :
    Along (r.held allows) (r.held allows).renewals (fun _ _ => True)
      (Concludes (fun generation y => generation.index = r.nextIndex record feed ∧
          generation.fields = reader.fields ∧ reader.failure = none ∧ r.Roomy ∧
            ∃ timestamp, r.Serves generation.index (feedDocuments feed timestamp reader.rows) y)
        (fun e y => reader.failure = some e ∨ y.1.store.faults.Spoils (r.nextIndex record feed))
        fun f _ => r.Crowded f)
      (r.fill record feed reader) x := by
  refine (along_reclaim (nextIndex_ne_current r record feed) tracks).next (fun _ _ => .inr)
    fun _ y reclaimed => ?_
  refine (along_createDataIndex reclaimed rfl).next (fun _ _ => .inr) fun _ y created => ?_
  intro z renewals (now : Reading) z' answered
  obtain ⟨-, rfl⟩ := held_of_other answered nofun nofun
  refine ⟨trivial, ?_⟩
  let timestamp := now.instant
  have fills : r.Fills (r.target record feed timestamp).index [] z' := created.renewals renewals
  show Along _ _ _ _ (((r.target record feed timestamp).populate reader.rows reader.failure).bind _) z'
  rw [populate_eq]
  split
  · rename_i crowded
    exact ⟨rfl, Nat.not_le_of_lt crowded⟩
  rename_i roomy
  refine (along_populateFrom fills (by simp)).next (fun _ _ => id) fun counts y ⟨whole, fills⟩ => ?_
  have fills : r.Fills (r.nextIndex record feed) (feedDocuments feed timestamp reader.rows) y := by
    simpa [documents, feedDocuments, target] using fills
  refine (along_freeze fills).next (fun _ _ => False.elim) fun _ y serves => ?_
  exact ⟨rfl, rfl, whole, Nat.not_lt.mp roomy, timestamp, serves⟩

end IndicatorFeeds.Runner

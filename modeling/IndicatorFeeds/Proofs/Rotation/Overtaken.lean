import IndicatorFeeds.Proofs.Rotation.Visibility

/-!
Runs that go on after their lease has been taken over. Such a run writes its record over whatever
another run or a deletion has made of it: a deleted job is there again, and what the job serves is
sound only if the run has loaded a generation or what its record has served is still there.
-/

namespace IndicatorFeeds

open Store (Memory MemoryIndex Call)
open Program Rotation

namespace Runner

variable {r : Runner} {allows : (r : Request) → r.Answer → Prop} {name index : String}
  {record : Job.Record} {i : MemoryIndex} {m m' : Memory}

/-- What overtakes a run, from one store to another: a run of the job that serves a new generation,
or a deletion of the job that is carried out. -/
inductive Overtakes (r : Runner) (allows : (r : Request) → r.Answer → Prop) (name : String) :
    (deleted : Bool) → Memory → Memory → Prop where
  | run {m : Memory} {p : Program Outcome} {index : String} {y : Moment} (run : r.Refreshes name p)
      (ended : Ends (Moment.surroundings allows) p (.start m) (.ok (.refreshed index)) y) :
      Overtakes r allows name false m y.store
  | deletion {m : Memory} {y : Moment}
      (ended : Ends (Moment.surroundings allows) (r.deleteJob name) (.start m) (.ok ()) y) :
      Overtakes r allows name true m y.store

/-- The stored record of a job serves an index with these contents. -/
structure Shows (r : Runner) (name index : String) (i : MemoryIndex) (m : Memory) : Prop where
  record : ∃ record, r.records.Holds m name record ∧ record.currentIndex = some index
  contents : m.indices.find? index = some i

/-- The stored record of a job serves a generation. -/
def ServesGeneration (r : Runner) (allows : (r : Request) → r.Answer → Prop) (name : String)
    (m : Memory) : Prop :=
  ∃ index i, r.Shows name index i m ∧ Generation allows i

/-- What a record serves is a generation of a store. -/
def StillServes (allows : (r : Request) → r.Answer → Prop) (record : Job.Record) (m : Memory) :
    Prop :=
  ∃ index i, record.currentIndex = some index ∧ m.indices.find? index = some i ∧
    Generation allows i

/-- What a run that has been overtaken may leave behind: a deleted job stays deleted, and any other
job serves a generation. -/
def Harmless (r : Runner) (allows : (r : Request) → r.Answer → Prop) (name : String) :
    (deleted : Bool) → Memory → Prop
  | true, m => m.document? r.records.index name = none
  | false, m => r.ServesGeneration allows name m

theorem Shows.congr (shows : r.Shows name index i m)
    (records : m'.indices.find? r.records.index = m.indices.find? r.records.index)
    (data : m'.indices.find? index = m.indices.find? index) : r.Shows name index i m' := by
  obtain ⟨⟨record, holds, current⟩, contents⟩ := shows
  exact ⟨⟨record, holds.congr records, current⟩, data.trans contents⟩

theorem Overtakes.isBlocked {deleted : Bool} (overtakes : r.Overtakes allows name deleted m m') :
    m'.isBlocked r.records.index = false := by
  cases overtakes with
  | run run ended => exact (finished_of_loads (.refreshes run) ended).2.1
  | deletion ended => exact writable_of_deleteJob ended

/-- What a record serves is as it was in a store. -/
private def Unmoved (record : Job.Record) (m : Memory) (x : Moment) : Prop :=
  ∀ old, record.currentIndex = some old → x.store.indices.find? old = m.indices.find? old

/-- The stored record serves what a record has served, and that is as it was. -/
private def Restored (r : Runner) (record : Job.Record) (m : Memory) (x : Moment) : Prop :=
  (∃ stored, r.records.Holds x.store record.name stored ∧
    stored.currentIndex = record.currentIndex) ∧ Unmoved record m x

private theorem Unmoved.saved {record' : Job.Record} {x y : Moment × Lease}
    (listed : ∀ i ∈ record.indices, r.IsData i) (unmoved : Unmoved record m x.1)
    (saved : r.Saved record' x y) : Unmoved record m y.1 := by
  intro old current
  have data := listed old (List.mem_of_getLast? current)
  exact (saved.at data ⟨unmoved old current, rfl⟩).contents

private theorem shows_saved {record' : Job.Record} {x y : Moment × Lease}
    (named : record'.name = name) (current : record'.currentIndex = some index)
    (data : r.IsData index) (contents : x.1.store.indices.find? index = some i)
    (saved : r.Saved record' x y) : r.Shows name index i y.1.store := by
  subst named
  exact ⟨⟨record', saved.holds, current⟩, (saved.at data ⟨contents, rfl⟩).contents⟩

private def stalePhases (apart : r.leases.index ≠ r.records.index)
    (names : ∀ feed, allows (.feedFor record.name) (.ok (some feed)) →
      r.IsData (r.nextIndex record feed))
    (listed : ∀ i ∈ record.indices, r.IsData i) (m : Memory) :
    r.Phases allows (fun _ _ => True) record where
  toMoves := .all r
  before := fun x => r.Writable x.1 ∧ Unmoved record m x.1
  after := fun feed x => r.IsData (r.nextIndex record feed) ∧
    ∃ i, r.Shows record.name (r.nextIndex record feed) i x.1.store ∧ Generation allows i
  failed := fun x => r.Restored record m x.1
  builds := by
    rintro feed request x a y allowed touches ⟨writable, unmoved⟩ answered
    have data := names feed allowed
    refine ⟨writable.congr (find?_held (touches _ data.2.symm) apart.symm answered), ?_⟩
    intro old current
    have other : old ≠ r.nextIndex record feed := fun same =>
      nextIndex_ne_current r record feed (current.trans (congrArg some same))
    have oldData := listed old (List.mem_of_getLast? current)
    exact (find?_held (touches old other) oldData.1 answered).trans (unmoved old current)
  waits := fun _ _ _ _ => trivial
  saves := by
    rintro record' x y named current ⟨writable, unmoved⟩ saved
    have unmoved := unmoved.saved listed saved
    have holds := saved.holds
    rw [named] at holds
    exact ⟨trivial, ⟨saved.writable, unmoved⟩, ⟨record', holds, current⟩, unmoved⟩
  refused := by
    rintro x ⟨writable, -⟩ blocked
    cases writable.symm.trans blocked
  swaps := by
    rintro feed record' x y reader timestamp allowed named current reads whole -
      ⟨i, keeps, blocked, sources⟩ - saved
    have data := names feed allowed
    have shows := shows_saved named current data (keeps.at data).contents saved
    exact ⟨trivial, data, i, shows, generation_of_reads allowed reads whole blocked sources⟩
  removes := by
    rintro feed stale x a y member other ⟨data, i, shows, generation⟩ answered
    have records : (Request.store (.deleteIndex stale)).Spares r.records.index :=
      Request.spares_of_ne (listed stale member).2
    have served : (Request.store (.deleteIndex stale)).Spares (r.nextIndex record feed) :=
      Request.spares_of_ne other
    exact ⟨trivial, data, i, shows.congr (find?_held records apart.symm answered)
      (find?_held served data.1 answered), generation⟩
  tidies := by
    rintro feed record' x y named current ⟨data, i, shows, generation⟩ saved
    exact ⟨trivial, data, i, shows_saved named current data shows.contents saved, generation⟩

/-- How a run ends that has gone on with a record. -/
private def Went (r : Runner) (allows : (r : Request) → r.Answer → Prop) (record : Job.Record)
    (m : Memory) : Outcome → Moment → Prop
  | .refreshed _, y => ∃ index, r.IsData index ∧
    ∃ i, r.Shows record.name index i y.store ∧ Generation allows i
  | _, y => r.Restored record m y

private theorem Went.congr {outcome : Outcome} {x y : Moment}
    (apart : r.leases.index ≠ r.records.index) (listed : ∀ i ∈ record.indices, r.IsData i)
    (went : r.Went allows record m outcome x)
    (same : ∀ i, i ≠ r.leases.index → y.store.indices.find? i = x.store.indices.find? i) :
    r.Went allows record m outcome y := by
  have records := same r.records.index apart.symm
  have restored (restored : r.Restored record m x) : r.Restored record m y := by
    obtain ⟨⟨stored, holds, current⟩, unmoved⟩ := restored
    refine ⟨⟨stored, holds.congr records, current⟩, fun old served => ?_⟩
    have data := listed old (List.mem_of_getLast? served)
    exact (same old data.1).trans (unmoved old served)
  cases outcome with
  | refreshed =>
    obtain ⟨index, data, i, shows, generation⟩ := went
    exact ⟨index, data, i, shows.congr records (same index data.1), generation⟩
  | skipped | locked | invalid | missing | failed => exact restored went

/-- A record that has been restored serves a generation if it did. -/
private theorem Restored.servesGeneration_iff {x : Moment} (restored : r.Restored record m x) :
    r.ServesGeneration allows record.name x.store ↔ StillServes allows record m := by
  obtain ⟨⟨stored, holds, current⟩, unmoved⟩ := restored
  constructor
  · rintro ⟨index, i, ⟨⟨stored', holds', current'⟩, contents⟩, generation⟩
    obtain rfl := holds.unique holds'
    have served := current.symm.trans current'
    exact ⟨index, i, served, (unmoved index served).symm.trans contents, generation⟩
  · rintro ⟨index, i, served, contents, generation⟩
    have holds : r.Shows record.name index i x.store :=
      ⟨⟨stored, holds, current.trans served⟩, (unmoved index served).trans contents⟩
    exact ⟨index, i, holds, generation⟩

private theorem Went.servesGeneration_iff {outcome : Outcome} {x : Moment}
    (went : r.Went allows record m outcome x) :
    r.ServesGeneration allows record.name x.store ↔
      (∃ index, outcome = .refreshed index) ∨ StillServes allows record m := by
  cases outcome with
  | refreshed index =>
    obtain ⟨served, -, shows⟩ := went
    exact ⟨fun _ => .inl ⟨index, rfl⟩, fun _ => ⟨served, shows⟩⟩
  | skipped | locked | invalid | missing | failed =>
    rw [or_iff_right (by rintro ⟨index, same⟩; cases same)]
    exact Restored.servesGeneration_iff went

private theorem Went.present {outcome : Outcome} {x : Moment}
    (went : r.Went allows record m outcome x) :
    x.store.document? r.records.index record.name ≠ none := by
  have holds : ∃ stored, r.records.Holds x.store record.name stored := by
    cases outcome with
    | refreshed =>
      obtain ⟨index, -, i, ⟨⟨stored, holds, -⟩, -⟩, -⟩ := went
      exact ⟨stored, holds⟩
    | skipped | locked | invalid | missing | failed =>
      obtain ⟨⟨stored, holds, -⟩, -⟩ := went
      exact ⟨stored, holds⟩
  obtain ⟨stored, holds⟩ := holds
  exact holds.present

/-- How a run ends that has given its lease back: with an outcome, unless a fault aborts it. -/
private def Gone (r : Runner) (allows : (r : Request) → r.Answer → Prop) (record : Job.Record)
    (m : Memory) : Except Failure (Except Error Outcome) → Moment → Prop
  | .ok (.ok outcome), y => r.Went allows record m outcome y
  | .error (.fault _), _ => True
  | .ok (.error _), _ | .error (.error _), _ => False

private theorem along_stale {x : Moment} {lease : Lease} (failureState : Job.State)
    (apart : r.leases.index ≠ r.records.index)
    (names : ∀ feed, allows (.feedFor record.name) (.ok (some feed)) →
      r.IsData (r.nextIndex record feed))
    (listed : ∀ i ∈ record.indices, r.IsData i) (unwritten : r.Unwritten (x, lease))
    (writable : r.Writable x) :
    Along (Moment.surroundings allows) Eq (fun _ _ => True) (r.Gone allows record x.store)
      (r.leases.withLease lease (r.executeRotation record failureState)) x := by
  have rotates := (r.stalePhases apart names listed x.store).along_executeRotation failureState
    unwritten ⟨writable, fun _ _ => rfl⟩
  refine IndicatorFeeds.along_withLease r.leases (fun _ => trivial) (fun _ _ _ _ => trivial)
    (fun _ _ => trivial) (rotates.weaken fun result y ended => ?_)
  have gives (outcome : Outcome) (went : r.Went allows record x.store outcome y.1) :
      Along (Moment.surroundings allows) Eq (fun _ _ => True)
        (fun _ z => r.Went allows record x.store outcome z) (r.leases.releaseQuietly y.2) y.1 :=
    (along_releaseQuietly_others r.leases y.2 y.1).weaken fun _ _ same =>
      went.congr apart listed same
  match result with
  | .ok outcome =>
    refine gives outcome ?_
    cases outcome with
    | refreshed index =>
      obtain ⟨feed, -, -, data, shows⟩ := ended
      exact ⟨_, data, shows⟩
    | skipped | locked | invalid | missing | failed => exact ended
  | .error (.error _) => exact ended.elim
  | .error (.fault _) => trivial

/-- A run that goes on after its lease has been taken over by a run of its job or by a deletion,
whatever the store refuses from then on, ends with an outcome, unless a fault aborts it. A
generation is served then exactly if the run has loaded one or what its record has served is one
still. The run is harmless if, besides, the job has not been deleted: a deleted job is always there
again. -/
theorem overtaken_harmless_iff {config : Config.EngineConfig} {service : Nat} {lease : Lease}
    {deleted : Bool} {faults : Store.Faults} {failureState : Job.State}
    {result : Except Failure (Except Error Outcome)} {y : Moment}
    (created : Runner.create config service = .ok r)
    (overtaken : r.Overtakes allows record.name deleted m m')
    (issued : lease.version.seqNo ≤ m'.lastSeqNo) (listed : ∀ i ∈ record.indices, r.IsData i)
    (generations : ∀ feed, allows (.feedFor record.name) (.ok (some feed)) →
      ∀ i ∈ generationNames (baseName r.config.rotation.dataIndexPrefix record.name feed.feedId),
        r.IsData i)
    (ended : Ends (Moment.surroundings allows)
      (r.leases.withLease lease (r.executeRotation record failureState))
      (.start { m' with faults }) result y)
    (completed : ∀ f, result ≠ .error (.fault f)) :
    ∃ outcome, result = .ok (.ok outcome) ∧
      (r.ServesGeneration allows record.name y.store ↔
        (∃ index, outcome = .refreshed index) ∨ StillServes allows record m') ∧
      (r.Harmless allows record.name deleted y.store ↔
        deleted = false ∧ r.ServesGeneration allows record.name y.store) := by
  have apart := apart_of_create created
  have names : ∀ feed, allows (.feedFor record.name) (.ok (some feed)) →
      r.IsData (r.nextIndex record feed) :=
    fun feed allowed => generations feed allowed _ (nextName_mem _ _)
  have unwritten : r.Unwritten (.start { m' with faults }, lease) :=
    fun i => ⟨fun _ => rfl, issued⟩
  have writable : r.Writable (.start { m' with faults }) := by
    have writable := overtaken.isBlocked
    exact writable
  have gone := (along_stale failureState apart names listed unwritten writable).ended ended
  match result with
  | .error (.fault f) => exact absurd rfl (completed f)
  | .ok (.ok outcome) =>
  have went : r.Went allows record { m' with faults } outcome y := gone
  refine ⟨outcome, rfl, went.servesGeneration_iff, ?_⟩
  cases deleted with
  | true => exact ⟨fun gone => (went.present gone).elim, fun ⟨same, _⟩ => nomatch same⟩
  | false => exact ⟨fun serves => ⟨rfl, serves⟩, And.right⟩

section

open Example

/-- A lease of five minutes that is over at the epoch. -/
private def lapsed : Lease := ⟨"job", .whole ⟨-300000, by decide⟩, 300, Memory.version 3⟩

private def leased : Memory := served.write ".threatintel-job-locks" "job" lapsed.document.toJson

private def goesOn : Program (Except Error Outcome) :=
  runner.leases.withLease lapsed (runner.executeRotation available .refreshFailed)

private theorem ends_goesOn {m : Memory} {outcome : Outcome}
    (value : (goesOn.run (Moment.answeredBy answer) (.start m)).1.toOption.bind Except.toOption =
      some outcome) :
    Ends (Moment.surroundings (answers feed reply)) goesOn (.start m) (.ok (.ok outcome))
      (goesOn.run (Moment.answeredBy answer) (.start m)).2 := by
  obtain ⟨result, ended, whole⟩ := Option.bind_eq_some_iff.mp value
  cases result with
  | error e => cases whole
  | ok other =>
    obtain rfl := Option.some.inj whole
    exact Moment.ends_answeredBy answer_allowed goesOn (.start m) ended

private def afterTick : Moment :=
  ((runner.runJob "job").outcome.run (Moment.answeredBy answer) (.start leased)).2

private def refusals : Store.Faults := { failingBulkWrites := ["job-2"] }

private def failedEnd : Moment :=
  (goesOn.run (Moment.answeredBy answer) (.start { afterTick.store with faults := refusals })).2

/-- A tick has served the second generation and removed the first one. The run that it has overtaken
fails to load the second one again, and its record serves the first one, which is gone. -/
theorem overtaken_by_tick : ¬runner.ServesGeneration (answers feed reply) "job" failedEnd.store := by
  have created : Runner.create {} 0 = .ok runner := by rfl
  have ticked : Ends (Moment.surroundings (answers feed reply)) (runner.runJob "job").outcome
      (.start leased) (.ok (.refreshed "job-2")) afterTick :=
    Moment.ends_answeredBy answer_allowed _ (.start leased) (by decide +kernel)
  have overtaken : runner.Overtakes (answers feed reply) "job" false leased afterTick.store :=
    .run .tick ticked
  have ended : Ends (Moment.surroundings (answers feed reply)) goesOn
      (.start { afterTick.store with faults := refusals }) (.ok (.ok (.failed
        "Store error: backend error: injected bulk failure for job-2"))) failedEnd :=
    ends_goesOn (by decide +kernel)
  have left : lapsed.version.seqNo ≤ afterTick.store.lastSeqNo ∧
      (afterTick.store.indices.find? "job-1").isNone = true := by decide +kernel
  obtain ⟨issued, gone⟩ := left
  obtain ⟨outcome, same, serves, -⟩ := overtaken_harmless_iff created overtaken issued
    available_data generations_data ended nofun
  obtain rfl := Except.ok.inj (Except.ok.inj same)
  intro served
  rcases serves.mp served with ⟨index, refreshed⟩ | ⟨index, i, current, there, -⟩
  · cases refreshed
  · obtain rfl : "job-1" = index := Option.some.inj current
    rw [there] at gone
    cases gone

private def afterDeletion : Moment :=
  ((runner.deleteJob "job").run (Moment.answeredBy answer) (.start leased)).2

private def deletionUndone : Moment :=
  (goesOn.run (Moment.answeredBy answer) (.start { afterDeletion.store with faults := refusals })).2

/-- A job that has been deleted while a run had its record is there again when the run ends, and
what it serves then is not. -/
theorem deletion_undone :
    runner.records.Holds leased "job" available ∧
      runner.Overtakes (answers feed reply) "job" true leased afterDeletion.store ∧
        Ends (Moment.surroundings (answers feed reply)) goesOn
          (.start { afterDeletion.store with faults := refusals }) (.ok (.ok (.failed
            "Store error: backend error: injected bulk failure for job-2"))) deletionUndone ∧
        ¬runner.Harmless (answers feed reply) "job" true deletionUndone.store ∧
        ¬runner.ServesGeneration (answers feed reply) "job" deletionUndone.store := by
  have left : ((deletionUndone.store.document? ".threatintel-jobs" "job").bind fun stored =>
      (Job.Record.fromJson? (.ofValue stored.source)).bind (·.currentIndex)) = some "job-1" ∧
        (deletionUndone.store.indices.find? "job-1").isNone = true := by decide +kernel
  obtain ⟨serves, gone⟩ := left
  refine ⟨?_, .deletion ?_, ?_, ?_, ?_⟩
  · exact ⟨_, by rfl, Job.Record.fromJson?_toJson available⟩
  · exact Moment.ends_answeredBy answer_allowed _ (.start leased) (by decide +kernel)
  · exact ends_goesOn (by decide +kernel)
  · intro absent
    have absent : deletionUndone.store.document? ".threatintel-jobs" "job" = none := absent
    rw [absent] at serves
    cases serves
  · rintro ⟨index, i, ⟨⟨record, ⟨stored, there, decoded⟩, current⟩, contents⟩, -⟩
    have there : deletionUndone.store.document? ".threatintel-jobs" "job" = some stored := there
    rw [there, Option.bind_some, decoded, Option.bind_some, current] at serves
    obtain rfl := Option.some.inj serves
    rw [contents] at gone
    cases gone

end

end Runner

end IndicatorFeeds

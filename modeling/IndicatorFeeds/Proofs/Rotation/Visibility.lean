import IndicatorFeeds.Proofs.Rotation.Content

/-!
What readers see while a job is refreshed. At every moment of a run the stored record serves the
generation it has served before, which is as it was, or the new one, which is there with all that
the run ever writes to it and takes no more writes.
-/

namespace IndicatorFeeds

namespace Runner

open Store (Memory MemoryIndex Call)
open Program Rotation

/-- What the readers of a job see before a run: an index with these contents. -/
structure View where
  name : String
  old : String
  contents : MemoryIndex

namespace View

variable {v : View} {r : Runner} {allows : (r : Request) → r.Answer → Prop}
  {record : Job.Record} {x y : Moment} {index : String} {docs : List Json.Value}

/-- The stored record of the job serves this index. -/
def Serves (v : View) (r : Runner) (index : String) (x : Moment) : Prop :=
  ∃ record, r.records.Holds x.store v.name record ∧ record.currentIndex = some index

/-- The readers see what they have seen before. -/
structure Old (v : View) (r : Runner) (x : Moment) : Prop where
  serves : v.Serves r v.old x
  contents : x.store.indices.find? v.old = some v.contents

/-- The readers see a new generation with all that has been written to it, which takes no writes. -/
structure New (v : View) (r : Runner) (index : String) (docs : List Json.Value) (x : Moment) :
    Prop where
  serves : v.Serves r index x
  other : index ≠ v.old
  data : r.IsData index
  complete : ∃ i, x.At index (some i) docs ∧ i.writeBlocked = true ∧ i.sources.Perm docs

/-- The index is the name of the generation that follows with a feed of the job. -/
def Next (v : View) (r : Runner) (allows : (r : Request) → r.Answer → Prop) (index : String) :
    Prop :=
  ∃ feed, allows (.feedFor v.name) (.ok (some feed)) ∧
    index = nextName (baseName r.config.rotation.dataIndexPrefix v.name feed.feedId) (some v.old)

/-- What a run may do: the readers go on seeing what they see, or see the next generation. -/
def Moved (v : View) (r : Runner) (allows : (r : Request) → r.Answer → Prop) (x y : Moment) :
    Prop :=
  (v.Old r x → v.Old r y ∨ ∃ index docs, v.Next r allows index ∧ v.New r index docs y) ∧
    ∀ index docs, v.New r index docs x → v.New r index docs y

theorem Serves.congr (serves : v.Serves r index x)
    (same : y.store.indices.find? r.records.index = x.store.indices.find? r.records.index) :
    v.Serves r index y := by
  obtain ⟨record, holds, current⟩ := serves
  exact ⟨record, holds.congr same, current⟩

/-- Readers see one index at a time. -/
theorem Old.not_new (old : v.Old r x) : ¬v.New r index docs x := by
  intro new
  obtain ⟨record, holds, current⟩ := old.serves
  obtain ⟨record', holds', current'⟩ := new.serves
  obtain rfl := holds.unique holds'
  exact new.other (Option.some.inj (current'.symm.trans current))

theorem New.moved (new : v.New r index docs x)
    (kept : ∀ docs, v.New r index docs x → v.New r index docs y) : v.Moved r allows x y := by
  refine ⟨fun old => (old.not_new new).elim, fun index' docs' new' => ?_⟩
  obtain ⟨record, holds, current⟩ := new.serves
  obtain ⟨record', holds', current'⟩ := new'.serves
  obtain rfl := holds.unique holds'
  obtain rfl := Option.some.inj (current.symm.trans current')
  exact kept docs' new'

theorem moved_of_spares (data : r.IsData v.old)
    (records : y.store.indices.find? r.records.index = x.store.indices.find? r.records.index)
    (spares : ∀ i, r.IsData i → ∀ found docs, x.At i found docs → y.At i found docs) :
    v.Moved r allows x y := by
  constructor
  · intro old
    have kept := spares v.old data _ _ ⟨old.contents, rfl⟩
    exact .inl ⟨old.serves.congr records, kept.contents⟩
  · intro index docs new
    obtain ⟨i, there, blocked, sources⟩ := new.complete
    exact ⟨new.serves.congr records, new.other, new.data, i, spares index new.data _ _ there,
      blocked, sources⟩

theorem moved_aside {request : Request} {a : request.Answer} (apart : r.leases.index ≠ r.records.index)
    (data : r.IsData v.old) (spares : r.leases.Spares request)
    (answered : Moment.surroundings allows request x a y) : v.Moved r allows x y := by
  apply moved_of_spares data
  · exact Moment.find?_of_spares (spares _ apart.symm) answered
  · intro i data found docs there
    exact there.step (spares i data.1) answered

theorem moved_renewed {x y : Moment × Lease} (apart : r.leases.index ≠ r.records.index)
    (data : r.IsData v.old) (renewed : r.leases.Renewed x y) : v.Moved r allows x.1 y.1 := by
  apply moved_of_spares data
  · exact renewed.find? apart.symm
  · intro i data found docs there
    exact there.renewed data.1 renewed

/-- A record of the job that serves what the readers see. -/
structure Known (v : View) (r : Runner) (record : Job.Record) : Prop where
  named : record.name = v.name
  current : record.currentIndex = some v.old
  data : ∀ i ∈ record.indices, r.IsData i

theorem Known.old (known : v.Known r record) : r.IsData v.old :=
  known.data v.old (List.mem_of_getLast? known.current)

/-- The generations of the feeds that the catalog may name have names of data indices. -/
def NamesData (v : View) (r : Runner) (allows : (r : Request) → r.Answer → Prop) : Prop :=
  ∀ feed, allows (.feedFor v.name) (.ok (some feed)) →
    ∀ i ∈ generationNames (baseName r.config.rotation.dataIndexPrefix v.name feed.feedId),
      r.IsData i

theorem Known.nextIndex (known : v.Known r record) (feed : Feed.Metadata) :
    r.nextIndex record feed =
      nextName (baseName r.config.rotation.dataIndexPrefix v.name feed.feedId) (some v.old) := by
  unfold Runner.nextIndex
  rw [known.named, known.current]

theorem Known.nextIndex_ne (known : v.Known r record) (feed : Feed.Metadata) :
    r.nextIndex record feed ≠ v.old := by
  intro same
  exact nextIndex_ne_current r record feed (known.current.trans (congrArg some same.symm))

theorem Known.next (known : v.Known r record) {feed : Feed.Metadata}
    (allowed : allows (.feedFor record.name) (.ok (some feed))) :
    v.Next r allows (r.nextIndex record feed) := by
  rw [known.named] at allowed
  exact ⟨feed, allowed, known.nextIndex feed⟩

theorem Known.next_data (known : v.Known r record) (names : v.NamesData r allows)
    {feed : Feed.Metadata} (allowed : allows (.feedFor record.name) (.ok (some feed))) :
    r.IsData (r.nextIndex record feed) := by
  rw [known.named] at allowed
  rw [known.nextIndex feed]
  exact names feed allowed _ (nextName_mem _ _)

private theorem old_saved {record' : Job.Record} {x y : Moment × Lease} (known : v.Known r record)
    (named : record'.name = record.name) (current : record'.currentIndex = record.currentIndex)
    (old : v.Old r x.1) (saved : r.Saved record' x y) : v.Old r y.1 := by
  have there := saved.at known.old ⟨old.contents, rfl⟩
  have holds := saved.holds
  rw [named, known.named] at holds
  exact ⟨⟨record', holds, current.trans known.current⟩, there.contents⟩

private theorem new_saved {record' : Job.Record} {x y : Moment × Lease} {served : MemoryIndex}
    (known : v.Known r record) (named : record'.name = record.name)
    (current : record'.currentIndex = some index) (other : index ≠ v.old) (data : r.IsData index)
    (there : x.1.At index (some served) docs) (blocked : served.writeBlocked = true)
    (sources : served.sources.Perm docs) (saved : r.Saved record' x y) :
    v.New r index docs y.1 := by
  have holds := saved.holds
  rw [named, known.named] at holds
  exact ⟨⟨record', holds, current⟩, other, data, served, saved.at data there, blocked, sources⟩

private def phases (apart : r.leases.index ≠ r.records.index) (names : v.NamesData r allows)
    (known : v.Known r record) : r.Phases allows (v.Moved r allows) record where
  still := fun x => ⟨.inl, fun _ _ => id⟩
  renews := fun x y renewed => moved_renewed apart known.old renewed
  before := fun x => v.Old r x.1
  after := fun feed x => ∃ docs, v.New r (r.nextIndex record feed) docs x.1
  failed := fun _ => True
  builds := by
    intro feed request x a y allowed touches old answered
    have jobs := touches r.records.index (known.next_data names allowed).2.symm
    have served := touches v.old (known.nextIndex_ne feed).symm
    exact ⟨old.serves.congr (find?_held jobs apart.symm answered),
      (find?_held served known.old.1 answered).trans old.contents⟩
  waits := fun x y old later => ⟨fun _ => .inl later, fun _ _ new => (old.not_new new).elim⟩
  saves := by
    intro record' x y named current old saved
    have later := old_saved known named current old saved
    exact ⟨⟨fun _ => .inl later, fun _ _ new => (old.not_new new).elim⟩, later, trivial⟩
  refused := fun _ _ _ => trivial
  swaps := by
    rintro feed record' x y reader timestamp allowed named current - - - ⟨served, keeps,
      blocked, sources⟩ old saved
    have data := known.next_data names allowed
    have new := new_saved known named current (known.nextIndex_ne feed) data (keeps.at data) blocked
      sources saved
    exact ⟨⟨fun _ => .inr ⟨_, _, known.next allowed, new⟩, fun _ _ new => (old.not_new new).elim⟩,
      _, new⟩
  removes := by
    rintro feed stale x a y member other ⟨docs, new⟩ answered
    have kept : ∀ docs, v.New r (r.nextIndex record feed) docs x.1 →
        v.New r (r.nextIndex record feed) docs y.1 := by
      intro docs new
      obtain ⟨i, there, blocked, sources⟩ := new.complete
      have jobs : (Request.store (.deleteIndex stale)).Spares r.records.index :=
        Request.spares_of_ne (known.data stale member).2
      have served : (Request.store (.deleteIndex stale)).Spares (r.nextIndex record feed) :=
        Request.spares_of_ne other
      exact ⟨new.serves.congr (find?_held jobs apart.symm answered), new.other, new.data, i,
         at_held there served new.data.1 answered, blocked, sources⟩
    exact ⟨new.moved kept, docs, kept docs new⟩
  tidies := by
    rintro feed record' x y named current ⟨docs, new⟩ saved
    have kept : ∀ docs, v.New r (r.nextIndex record feed) docs x.1 →
        v.New r (r.nextIndex record feed) docs y.1 := by
      intro docs new
      obtain ⟨i, there, blocked, sources⟩ := new.complete
      exact new_saved known named current new.other new.data there blocked sources saved
    exact ⟨new.moved kept, docs, kept docs new⟩

private def course (apart : r.leases.index ≠ r.records.index) (names : v.NamesData r allows)
    (data : r.IsData v.old) : r.Course allows (v.Moved r allows) v.name where
  still := fun x => ⟨.inl, fun _ _ => id⟩
  renews := fun x y renewed => moved_renewed apart data renewed
  start := fun x => x.store.indices.find? v.old = some v.contents ∧
    ∃ record, r.records.Holds x.store v.name record ∧ v.Known r record
  aside := by
    intro request x a y spares answered
    refine ⟨moved_aside apart data spares answered, ?_⟩
    rintro ⟨contents, record, holds, known⟩
    exact ⟨(Moment.find?_of_spares (spares _ data.1) answered).trans contents, record,
      holds.congr (Moment.find?_of_spares (spares _ apart.symm) answered), known⟩
  renewed := by
    rintro x y renewed ⟨contents, record, holds, known⟩
    exact ⟨(renewed.find? data.1).trans contents, record,
      holds.congr (renewed.find? apart.symm), known⟩
  known := v.Known r
  loads := by
    rintro record x ⟨-, record', holds', known⟩ holds
    obtain rfl := holds.unique holds'
    exact known
  phases := fun record known => phases apart names known
  begins := fun record known x ⟨contents, record', holds, known'⟩ =>
    ⟨⟨record', holds, known'.current⟩, contents⟩
  finished := fun _ _ => True
  releases := by
    intro record known feed x allowed after
    exact (asks_releaseQuietly r.leases x.2).moves (fun request y a z spares answered =>
      moved_aside apart data spares answered) x.1

/-- At every moment the readers see the index that they saw before, or the next generation. -/
private theorem seen (moves : Relation.ReflTransGen (v.Moved r allows) x y) (old : v.Old r x) :
    v.Old r y ∨ ∃ index docs, v.Next r allows index ∧ v.New r index docs y := by
  induction moves with
  | refl => exact .inl old
  | tail _ moved ih =>
    rcases ih with old | ⟨index, docs, next, new⟩
    · exact moved.1 old
    · exact .inr ⟨index, docs, next, moved.2 index docs new⟩

/-- Nothing is written any more to a generation that the readers see. -/
private theorem New.stays (new : v.New r index docs x)
    (moves : Relation.ReflTransGen (v.Moved r allows) x y) : v.New r index docs y := by
  induction moves with
  | refl => exact new
  | tail _ moved ih => exact moved.2 index docs ih

end View

/-- At every moment of a run that is alone with its store, the stored record of the job serves the
index that it has served before, with the contents that it had, or the next generation, which has
all that the run has written to it at any later moment and takes no writes. -/
theorem served_throughout {r : Runner} {allows : (r : Request) → r.Answer → Prop}
    {config : Config.EngineConfig} {service : Nat} {m : Memory} {name old : String}
    {contents : MemoryIndex} {record : Job.Record} {p q q' : Program Outcome} {x y : Moment}
    (created : Runner.create config service = .ok r) (stored : r.records.Holds m name record)
    (named : record.name = name) (current : record.currentIndex = some old)
    (present : m.indices.find? old = some contents) (listed : ∀ i ∈ record.indices, r.IsData i)
    (generations : ∀ feed, allows (.feedFor name) (.ok (some feed)) →
      ∀ i ∈ generationNames (baseName r.config.rotation.dataIndexPrefix name feed.feedId),
        r.IsData i)
    (run : r.Refreshes name p) (way : Reaches (Moment.surroundings allows) p (.start m) q x)
    (later : Reaches (Moment.surroundings allows) q x q' y) :
    ∃ served, r.records.Holds x.store name served ∧
      ((served.currentIndex = some old ∧ x.store.indices.find? old = some contents) ∨
        ∃ feed i, allows (.feedFor name) (.ok (some feed)) ∧
          served.currentIndex = some (r.nextIndex record feed) ∧
            x.store.indices.find? (r.nextIndex record feed) = some i ∧ i.writeBlocked = true ∧
              i.sources.Perm (y.written (r.nextIndex record feed))) := by
  let v : View := ⟨name, old, contents⟩
  have apart := apart_of_create created
  have known : v.Known r record := ⟨named, current, listed⟩
  have fresh : r.Fresh (.start m) := fun _ _ => rfl
  have names : v.NamesData r allows := generations
  have along := (View.course apart names known.old).along_refreshes run
    ⟨present, record, stored, known⟩ fresh
  obtain ⟨along, moves⟩ := along.reached way
  obtain ⟨-, moves'⟩ := along.reached later
  rcases View.seen moves ⟨⟨record, stored, current⟩, present⟩ with seen | ⟨index, docs, next, seen⟩
  · obtain ⟨served, holds, serves⟩ := seen.serves
    exact ⟨served, holds, .inl ⟨serves, seen.contents⟩⟩
  · obtain ⟨served, holds, serves⟩ := seen.serves
    obtain ⟨feed, allowed, rfl⟩ := next
    obtain ⟨i, there, blocked, sources⟩ := seen.complete
    obtain ⟨_, there', -⟩ := (View.New.stays seen moves').complete
    rw [← known.nextIndex feed] at there there' serves
    refine ⟨served, holds, .inr ⟨feed, i, allowed, serves, there.contents, blocked, ?_⟩⟩
    rw [there'.written]
    exact sources

namespace Example

/-- A job that is refreshed by ticks. -/
def available : Job.Record where
  name := "job"
  state := .available
  schedule := ⟨1, .days, .epoch⟩
  updateEnabled := true
  enabledTime := some .epoch
  indices := ["job-1"]
  updateStats := .none
  lastUpdateTime := .epoch
  schemaVersion := 1
  feedFields := []

/-- A store with the job and what it serves. -/
def served : Memory :=
  (Memory.empty.write "job-1" "x" (.string "old")).write ".threatintel-jobs" "job" available.toJson

theorem available_data : ∀ i ∈ available.indices, runner.IsData i := by
  unfold Runner.IsData
  decide +kernel

theorem generations_data (feed' : Feed.Metadata)
    (found : answers feed reply (.feedFor "job") (.ok (some feed'))) :
    ∀ i ∈ generationNames (baseName "" "job" feed'.feedId), runner.IsData i := by
  obtain rfl : feed' = feed := Option.some.inj (Except.ok.inj found)
  unfold Runner.IsData
  decide +kernel

end Example

section

open Example

private def tickEnd : Moment :=
  ((runner.runJob "job").outcome.run (Moment.answeredBy answer) (.start served)).2

/-- After a tick the second generation is served, with all that the tick has written to it. -/
theorem served_throughout_tick :
    ∃ record i, runner.records.Holds tickEnd.store "job" record ∧
      record.currentIndex = some "job-2" ∧ tickEnd.store.indices.find? "job-2" = some i ∧
        i.writeBlocked = true ∧ i.sources.Perm (tickEnd.written "job-2") := by
  have created : Runner.create {} 0 = .ok runner := by rfl
  have stored : runner.records.Holds served "job" available :=
    ⟨_, Memory.document?_write_self _ _ _ _, Job.Record.fromJson?_toJson available⟩
  have ended : Ends (Moment.surroundings (answers feed reply)) (runner.runJob "job").outcome
      (.start served) (.ok (.refreshed "job-2")) tickEnd :=
    Moment.ends_answeredBy answer_allowed _ (.start served) (by decide +kernel)
  have current : available.currentIndex = some "job-1" := rfl
  have gone : (tickEnd.store.indices.find? "job-1").isNone = true := by decide +kernel
  obtain ⟨record, holds, ⟨-, still⟩ | ⟨feed', i, found, current, there, blocked, sources⟩⟩ :=
    served_throughout created stored rfl current rfl available_data generations_data .tick ended
      .here
  · rw [still] at gone
    cases gone
  · obtain rfl : feed' = feed := Option.some.inj (Except.ok.inj found)
    have next : runner.nextIndex available feed = "job-2" := by decide +kernel
    rw [next] at current there sources
    exact ⟨record, i, holds, current, there, blocked, sources⟩

end

end Runner

end IndicatorFeeds

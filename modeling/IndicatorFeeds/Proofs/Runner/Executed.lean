import IndicatorFeeds.Proofs.Rotation.Stages
import IndicatorFeeds.Proofs.Runner.UnderLease

namespace IndicatorFeeds.Runner

open Store (Memory MemoryIndex Call)
open Program Rotation

variable {r : Runner} {allows : (r : Request) → r.Answer → Prop} {record final : Job.Record}
  {may : String → Prop} {writes : Option Job.Record → Prop} {failureState : Job.State}
  {feed : Feed.Metadata} {x y : Moment × Lease} {m m' : Memory}

/-- The record that a rotation has made of one: it serves the next index, with the header of its
feed, after indices that have been kept. -/
def Swapped (r : Runner) (allows : (r : Request) → r.Answer → Prop) (record : Job.Record)
    (feed : Feed.Metadata) (fields kept : List String) (final : Job.Record) : Prop :=
  ∃ (generation : Rotation.Generation) (millis : UInt64) (succeeded enabled now : Instant),
    Tells allows succeeded ∧ Tells allows enabled ∧ Tells allows now ∧
      generation.index = r.nextIndex record feed ∧ generation.fields = fields ∧
        final = { (swapped record generation millis succeeded).enable enabled with
          indices := kept ++ [r.nextIndex record feed] }.writtenAt now

/-- What a rotation may write in place of a record. -/
inductive Rotates (r : Runner) (allows : (r : Request) → r.Answer → Prop) (record : Job.Record)
    (failureState : Job.State) : Job.Record → Prop where
  | marked {now : Instant} (allowed : Tells allows now) :
      Rotates r allows record failureState ({ record with state := inProgress record }.writtenAt now)
  | swapped {feed : Feed.Metadata} {reader : Feed.Reader} {kept : List String}
      {final : Job.Record} (found : allows (.feedFor record.name) (.ok (some feed)))
      (gate : Feed.checkHeader record.feedFields reader.fields = .ok ())
      (made : r.Swapped allows record feed reader.fields kept final)
      (listed : ∀ i ∈ kept, i ∈ record.indices) : Rotates r allows record failureState final
  | failed {now later : Instant} (allowed : Tells allows now) (allowed' : Tells allows later) :
      Rotates r allows record failureState ((afterFailure record failureState now).writtenAt later)

/-- What keeps a rotation from serving its generation. -/
def Cause (r : Runner) (allows : (r : Request) → r.Answer → Prop) (record : Job.Record)
    (m : Memory) (e : Error) : Prop :=
  r.Unfit allows record.name record.feedFields e ∨
    ∃ feed, allows (.feedFor record.name) (.ok (some feed)) ∧
      r.Hindered allows feed (r.nextIndex record feed) m e

/-- How a rotation of a record ends, by what the store has then. -/
inductive Executed (r : Runner) (allows : (r : Request) → r.Answer → Prop) (record : Job.Record)
    (failureState : Job.State) (m : Memory) : Outcome → Prop where
  | refreshed {feed : Feed.Metadata} {reader : Feed.Reader} {final : Job.Record}
      {kept : List String} {served : MemoryIndex} {timestamp : Instant}
      (found : allows (.feedFor record.name) (.ok (some feed))) (reads : r.Reads allows feed reader)
      (gate : Feed.checkHeader record.feedFields reader.fields = .ok ())
      (whole : reader.failure = none) (made : r.Swapped allows record feed reader.fields kept final)
      (stored : r.records.Holds m record.name final)
      (all : kept = (r.stale record feed).filter (· ∈ m.faults.failingDeletion))
      (gone : ∀ i ∈ r.stale record feed, i ∉ kept → m.indices.find? i = none)
      (there : m.indices.find? (r.nextIndex record feed) = some served)
      (blocked : served.writeBlocked = true)
      (sources : served.sources.Perm (feedDocuments feed timestamp reader.rows))
      (roomy : r.Roomy) : Executed r allows record failureState m (.refreshed (r.nextIndex record feed))
  | failed {e : Error} {now later : Instant} (cause : r.Cause allows record m e)
      (allowed : Tells allows now) (allowed' : Tells allows later)
      (stored : r.records.Holds m record.name
        ((afterFailure record failureState now).writtenAt later)) :
      Executed r allows record failureState m (.failed e.message)
  | unrecorded {e : Error} (blocked : m.isBlocked r.records.index = true) :
      Executed r allows record failureState m (.failed e.message)

private theorem Cause.congr {e : Error} (cause : r.Cause allows record m e)
    (faults : m'.faults = m.faults)
    (blocked : m'.isBlocked r.records.index = m.isBlocked r.records.index) :
    r.Cause allows record m' e := by
  refine cause.imp_right fun ⟨feed, found, hindered⟩ => ⟨feed, found, ?_⟩
  cases hindered with
  | body reads broken => exact .body reads broken
  | fault spoils => exact .fault (faults ▸ spoils)
  | record closed => exact .record (blocked.trans closed)

/-- A record that serves the next index has been written, and the index is there. -/
private structure Served (r : Runner) (allows : (r : Request) → r.Answer → Prop)
    (record : Job.Record) (feed : Feed.Metadata) (final : Job.Record) (x : Moment × Lease) : Prop where
  writable : x.1.store.isBlocked r.records.index = false
  found : allows (.feedFor record.name) (.ok (some feed))
  holds : r.records.Holds x.1.store record.name final
  served : ∃ reader timestamp, r.Reads allows feed reader ∧
    Feed.checkHeader record.feedFields reader.fields = .ok () ∧ reader.failure = none ∧ r.Roomy ∧
      r.Swapped allows record feed reader.fields (r.stale record feed) final ∧
        r.Serves (r.nextIndex record feed) (feedDocuments feed timestamp reader.rows) x

private def effects (apart : r.leases.index ≠ r.records.index)
    (listed : ∀ i ∈ record.indices, r.IsData i ∧ may i)
    (names : ∀ feed, allows (.feedFor record.name) (.ok (some feed)) →
      r.IsData (r.nextIndex record feed) ∧ may (r.nextIndex record feed))
    (rotates : ∀ record', r.Rotates allows record failureState record' → writes (some record')) :
    r.Stages allows (r.Runs record.name may writes) record failureState where
  still := .refl
  renews := fun _ _ => .of_renewed apart
  before := fun _ => True
  renewed := fun _ _ _ _ _ => id
  marks := fun _ _ _ allowed _ saved =>
    ⟨.of_saved apart saved rfl (rotates _ (.marked allowed)), trivial⟩
  building := fun _ _ => True
  begins := fun _ _ _ _ _ _ => id
  builds := fun feed request x a y found touches _ answered =>
    ⟨.of_touches apart touches (names feed found).1 (names feed found).2 answered, trivial⟩
  after := r.Served allows record
  swaps := by
    intro feed reader generation millis succeeded enabled now timestamp x y found reads gate whole
      roomy index fields allowed allowed' allowed'' serves _ saved
    have named := served_name record generation millis succeeded enabled
    have holds := saved.holds
    rw [show (((swapped record generation millis succeeded).enable enabled).writtenAt now).name =
      record.name from named] at holds
    have made : r.Swapped allows record feed reader.fields (r.stale record feed)
        (((swapped record generation millis succeeded).enable enabled).writtenAt now) := by
      refine ⟨generation, millis, succeeded, enabled, now, allowed, allowed', allowed'', index,
        fields, ?_⟩
      have same := served_indices record generation millis succeeded enabled
      rw [index] at same
      rw [stale, ← same]
    have written := rotates _ (.swapped found gate made fun i member => (List.mem_filter.mp member).1)
    exact ⟨.of_saved apart saved named written, (saved.isBlocked _).trans saved.1, found, holds, reader,
      timestamp, reads, gate, whole, roomy, made, serves.saved saved⟩
  removes := by
    rintro feed served index x a y member ⟨writable, found, holds, reader, timestamp, reads, gate,
      whole, roomy, made, serves⟩ answered
    obtain ⟨known, other⟩ := List.mem_filter.mp member
    have ⟨data, allowed⟩ := listed index known
    have touches : (Request.store (.deleteIndex index)).Touches index :=
      Request.touches_of_index rfl
    have kept := find?_held (touches _ data.2.symm) apart.symm answered
    refine ⟨.of_touches apart touches data allowed answered, ?_, found, holds.congr kept, reader, timestamp,
      reads, gate, whole, roomy, made, serves.step (touches _ ?_) answered⟩
    · rw [Memory.isBlocked, kept]
      exact writable
    · rintro rfl
      simp at other
  finished := fun feed x => r.Executed allows record failureState x.1.store
    (.refreshed (r.nextIndex record feed))
  clean := by
    rintro feed served x nothing ⟨-, found, holds, reader, timestamp, reads, gate, whole, roomy, made,
      i, keeps, blocked, sources⟩
    refine .refreshed found reads gate whole made holds ?_ ?_ keeps.contents blocked sources roomy
    · simp [nothing]
    · simp [nothing]
  tidies := by
    rintro feed served kept now x y allowed all gone ⟨-, found, -, reader, timestamp, reads, gate,
      whole, roomy, ⟨generation, millis, succeeded, enabled, now', allowed', allowed'', -, index, fields,
      rfl⟩, serves⟩ saved
    have named := served_name record generation millis succeeded enabled
    obtain ⟨i, keeps, blocked, sources⟩ := serves.saved saved
    have holds := saved.holds
    have made : r.Swapped allows record feed reader.fields kept _ :=
      ⟨generation, millis, succeeded, enabled, now, allowed', allowed'', allowed, index, fields, rfl⟩
    have written := rotates _ (.swapped found gate made fun i member => by
      rw [all] at member
      exact (List.mem_filter.mp (List.mem_filter.mp member).1).1)
    refine ⟨.of_saved apart saved named written, .refreshed found reads gate whole made (named ▸ holds)
      (saved.faults ▸ all) (fun i member unkept => ?_) keeps.contents blocked sources roomy⟩
    have data := (listed i (List.mem_filter.mp member).1).1
    exact (saved.at data ⟨gone i member unkept, rfl⟩).contents
  untidied := by
    rintro feed served x blocked ⟨writable, -⟩
    cases writable.symm.trans blocked
  broken := fun e x => r.Cause allows record x.1.store e
  unfit := fun _ _ unfit _ => .inl unfit
  hindered := fun feed _ _ found hindered _ => .inr ⟨feed, found, hindered⟩
  failed := fun e x => r.Executed allows record failureState x.1.store (.failed e.message)
  fails := by
    intro e now later x y allowed allowed' cause saved
    have named := afterFailure_name record failureState now
    have holds := saved.holds
    exact ⟨.of_saved apart saved named (rotates _ (.failed allowed allowed')),
      .failed (cause.congr saved.faults (saved.isBlocked _)) allowed allowed' (named ▸ holds)⟩
  unrecorded := fun _ _ blocked _ => .unrecorded blocked
  unmarked := fun _ blocked _ => .unrecorded blocked
  aborted := fun _ => True
  crowded := fun _ _ _ _ => id

/-- A rotation of a record touches its job alone, and ends as said, whatever renews its lease. -/
theorem along_executed (apart : r.leases.index ≠ r.records.index)
    (listed : ∀ i ∈ record.indices, r.IsData i ∧ may i)
    (names : ∀ feed, allows (.feedFor record.name) (.ok (some feed)) →
      r.IsData (r.nextIndex record feed) ∧ may (r.nextIndex record feed))
    (rotates : ∀ record', r.Rotates allows record failureState record' → writes (some record'))
    (unwritten : r.Unwritten x) :
    Along (r.held allows) Eq (r.Runs record.name may writes)
      (Concludes (fun outcome y => r.Executed allows record failureState y.1.store outcome)
        (fun _ _ => False) fun f _ => r.Crowded f) (r.executeRotation record failureState) x := by
  refine ((effects apart listed names rotates).along_executeRotation unwritten trivial).weaken
    fun result y ended => ?_
  match result with
  | .ok (.refreshed _) =>
    obtain ⟨feed, -, rfl, executed⟩ := ended
    exact executed
  | .ok (.failed _) =>
    obtain ⟨e, rfl, executed⟩ := ended
    exact executed
  | .error (.fault _) => exact ended.1

/-- How a rotation has ended is not changed by what becomes of its lease. -/
theorem Executed.ignores (apart : r.leases.index ≠ r.records.index)
    (listed : ∀ i ∈ record.indices, r.IsData i)
    (names : ∀ feed, allows (.feedFor record.name) (.ok (some feed)) →
      r.IsData (r.nextIndex record feed)) (outcome : Outcome) :
    r.leases.Ignores fun m => r.Executed allows record failureState m outcome := by
  intro m m' faults same executed
  have records := same r.records.index apart.symm
  have blocked : m'.isBlocked r.records.index = m.isBlocked r.records.index := by
    rw [Memory.isBlocked, Memory.isBlocked, records]
  cases executed with
  | refreshed found reads gate whole made stored all gone there blocked sources roomy =>
    refine .refreshed found reads gate whole made (stored.congr records) (faults ▸ all)
      (fun i member unkept => ?_) ?_ blocked sources roomy
    · exact (same i (listed i (List.mem_filter.mp member).1).1).trans (gone i member unkept)
    · exact (same _ (names _ found).1).trans there
  | failed cause allowed allowed' stored =>
    exact .failed (cause.congr faults blocked) allowed allowed' (stored.congr records)
  | unrecorded closed => exact .unrecorded (blocked.trans closed)

end IndicatorFeeds.Runner

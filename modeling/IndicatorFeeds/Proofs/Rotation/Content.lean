import IndicatorFeeds.Proofs.Feed.DataLines
import IndicatorFeeds.Proofs.Rotation.Course
import IndicatorFeeds.Proofs.Rotation.Writable

namespace IndicatorFeeds

open Store (Memory MemoryIndex Call)
open Program Rotation

/-- What a catalog and a network answer that have one feed for every job and one reply for every
request; what else a run asks for may be answered in any way. -/
def answers (feed : Feed.Metadata) (reply : Http.Reply) : (r : Request) → r.Answer → Prop
  | .feedFor _, a => a = .ok (some feed)
  | .http _, a => a = some reply
  | _, _ => True

/-- The documents of the lines of a feed that are loaded at a time, one for each data line with an
indicator. -/
def Feed.Metadata.documents (feed : Metadata) (timestamp : Instant) (lines : List String) :
    List Json.Value :=
  ((dataLines feed.hasHeader lines).filterMap feed.indicatorOf?).map fun value =>
    .ofFields [("ioc_type", .string feed.indicatorType), ("ioc_value", .string value),
      ("feed_id", .string feed.feedId), ("timestamp", .int timestamp.millis)]

namespace Runner

/-- The runs of a job that load a generation, from their start to their end. -/
inductive Loads (r : Runner) (name : String) : Program Outcome → Prop where
  | refreshes {p : Program Outcome} (run : r.Refreshes name p) : Loads r name p
  | create (schedule : Job.Schedule) : Loads r name ((r.createJob name schedule).bind Run.outcome)

variable {r : Runner} {allows : (r : Request) → r.Answer → Prop} {name index : String}
  {p : Program Outcome} {x y : Moment}

private theorem feedDocuments_eq {feed : Feed.Metadata} {lines : Feed.Lines} {reader : Feed.Reader}
    (opened : Feed.Reader.ofLines feed lines = .ok reader) (whole : reader.failure = none)
    (timestamp : Instant) :
    feedDocuments feed timestamp reader.rows = feed.documents timestamp lines.texts := by
  obtain ⟨-, rows⟩ := Feed.Reader.rows_eq_dataLines opened whole
  unfold feedDocuments Feed.Metadata.documents
  rw [rows, List.filterMap_map]
  rfl

/-- An index that takes no writes and has just the documents of a feed that was read to its end. -/
def Generation (allows : (r : Request) → r.Answer → Prop) (i : MemoryIndex) : Prop :=
  i.writeBlocked = true ∧ ∃ job feed request reply timestamp,
    allows (.feedFor job) (.ok (some feed)) ∧ allows (.http request) (some reply) ∧
      (Feed.Lines.ofReply reply).failure = none ∧
        i.sources.Perm (feed.documents timestamp (Feed.Lines.ofReply reply).texts)

/-- What has been read to its end and loaded is a generation. -/
theorem generation_of_reads {i : MemoryIndex} {job : String} {feed : Feed.Metadata}
    {reader : Feed.Reader} {timestamp : Instant} (allowed : allows (.feedFor job) (.ok (some feed)))
    (reads : r.Reads allows feed reader) (whole : reader.failure = none)
    (blocked : i.writeBlocked = true)
    (sources : i.sources.Perm (feedDocuments feed timestamp reader.rows)) : Generation allows i := by
  obtain ⟨request, reply, -, replied, opened⟩ := reads
  obtain ⟨complete, -⟩ := Feed.Reader.rows_eq_dataLines opened whole
  rw [feedDocuments_eq opened whole] at sources
  exact ⟨blocked, job, feed, request, reply, timestamp, allowed, replied, complete, sources⟩

/-- A whole feed has been loaded, and its record has been written. -/
private structure Loaded (r : Runner) (allows : (r : Request) → r.Answer → Prop)
    (record : Job.Record) (feed : Feed.Metadata) (x : Moment × Lease) : Prop where
  serves : ∃ reader timestamp, r.Reads allows feed reader ∧ reader.failure = none ∧
    r.Serves (r.nextIndex record feed) (feedDocuments feed timestamp reader.rows) x
  writable : r.Writable x.1
  roomy : r.Roomy

private theorem Loaded.saved {record record' : Job.Record} {feed : Feed.Metadata}
    {x y : Moment × Lease} (loaded : r.Loaded allows record feed x)
    (saved : r.Saved record' x y) : r.Loaded allows record feed y := by
  obtain ⟨⟨reader, timestamp, reads, whole, serves⟩, -, roomy⟩ := loaded
  exact ⟨⟨reader, timestamp, reads, whole, serves.saved saved⟩, saved.writable, roomy⟩

private def loadingPhases (r : Runner) (allows : (r : Request) → r.Answer → Prop)
    (record : Job.Record) : r.Phases allows (fun _ _ => True) record where
  toMoves := .all r
  before := fun _ => True
  after := r.Loaded allows record
  failed := fun _ => True
  builds := fun _ _ _ _ _ _ _ _ _ => trivial
  waits := fun _ _ _ _ => trivial
  saves := fun _ _ _ _ _ _ _ => ⟨trivial, trivial, trivial⟩
  refused := fun _ _ _ => trivial
  swaps := fun _ _ _ _ reader timestamp _ _ _ reads whole roomy serves _ saved =>
    ⟨trivial, ⟨reader, timestamp, reads, whole, serves.saved saved⟩, saved.writable, roomy⟩
  removes := by
    rintro feed stale x a y - other ⟨⟨reader, timestamp, reads, whole, serves⟩, writable,
      roomy⟩ answered
    have spares : (Request.store (.deleteIndex stale)).Spares (r.nextIndex record feed) :=
      Request.spares_of_ne other
    have closesNothing : (Request.store (.deleteIndex stale)).ClosesNothing := fun _ _ => nofun
    exact ⟨trivial, ⟨reader, timestamp, reads, whole, serves.step spares answered⟩,
      writable.held closesNothing answered, roomy⟩
  tidies := fun _ _ _ _ _ _ loaded saved => ⟨trivial, loaded.saved saved⟩

private def loading (r : Runner) (allows : (r : Request) → r.Answer → Prop) (name : String) :
    r.Course allows (fun _ _ => True) name where
  toMoves := .all r
  start := fun _ => True
  aside := fun _ _ _ _ _ _ => ⟨trivial, id⟩
  renewed := fun _ _ _ => id
  known := fun _ => True
  loads := fun _ _ _ _ => trivial
  phases := fun record _ => r.loadingPhases allows record
  begins := fun _ _ _ _ => trivial
  finished := fun index y => r.Roomy ∧ r.Writable y ∧
    ∃ i, y.store.indices.find? index = some i ∧ Generation allows i
  releases := by
    rintro record - feed x allowed
      ⟨⟨reader, timestamp, reads, whole, i, keeps, blocked, sources⟩, writable, roomy⟩
    have opens : Along (Moment.surroundings allows) Eq (fun _ _ => True) (fun _ y => r.Writable y)
        (r.leases.releaseQuietly x.2) x.1 := writable.along_releaseQuietly r.leases x.2
    refine (opens.and (along_releaseQuietly keeps)).ending.weaken fun _ y ended => ?_
    exact ⟨roomy, ended.1, i, ended.2, generation_of_reads allowed reads whole blocked sources⟩

/-- What a run ends with is a generation, if there is room for a batch, and records can be written
then. -/
theorem finished_of_loads (run : r.Loads name p) {m : Memory}
    (ended : Ends (Moment.surroundings allows) p (.start m) (.ok (.refreshed index)) y) :
    r.Roomy ∧ r.Writable y ∧ ∃ i, y.store.indices.find? index = some i ∧ Generation allows i := by
  have fresh : r.Fresh (.start m) := fun _ _ => rfl
  have along : Along (Moment.surroundings allows) Eq (fun _ _ => True)
      (r.loading allows name).Ended p (.start m) := by
    cases run with
    | refreshes run => exact Course.along_refreshes _ run trivial fresh
    | create schedule =>
      exact Course.along_create _ (fun _ => trivial) (fun _ => trivial) schedule fresh
  exact along.ended ended

/-- A run that ends with a new generation has read the whole body of its feed, and the generation
holds one document for each data line with an indicator, all of one time, and nothing else: not
what an index of its name has held before. -/
theorem generation_content {feed : Feed.Metadata} {reply : Http.Reply} (run : r.Loads name p)
    {m : Memory} (ended : Ends (Moment.surroundings (answers feed reply)) p (.start m)
      (.ok (.refreshed index)) y) :
    (Feed.Lines.ofReply reply).failure = none ∧
      ∃ i timestamp, y.store.indices.find? index = some i ∧
        i.sources.Perm (feed.documents timestamp (Feed.Lines.ofReply reply).texts) := by
  obtain ⟨-, -, i, there, -, job, feed', request, reply', timestamp, found, replied, complete,
    sources⟩ := finished_of_loads run ended
  obtain rfl : feed' = feed := Option.some.inj (Except.ok.inj found)
  obtain rfl : reply' = reply := Option.some.inj replied
  exact ⟨complete, i, timestamp, there, sources⟩

namespace Example

/-- A feed of the job. -/
def feed : Feed.Metadata :=
  .delimited "job" ⟨"http", some ⟨"", none, .domain "feeds", none⟩, .segments ["job"], none, none⟩

/-- A comment, a header, a blank line, a row without an indicator, and two rows with one. -/
def reply : Http.Reply where
  status := 200
  body := "# today\nip,seen\n1.1.1.1,x\n\n# end\n ,y\n 2.2.2.2 ,z\r\n".toUTF8.toList
  complete := true

/-- Everything at the same time, and no timer rings. -/
def answer : (r : Request) → r.Answer
  | .store c => (Memory.empty.answer c).1
  | .http _ => some reply
  | .feedFor _ => .ok (some feed)
  | .file _ => .directory
  | .now => Reading.whole .epoch
  | .leaseIndexReady _ => false
  | .stopwatch | .rings => (0 : Nat)
  | .sleep _ | .turn | .renewLease | .markLeaseIndexReady _ => ()

theorem answer_allowed (r : Request) : answers feed reply r (answer r) := by
  cases r <;> first | rfl | trivial

/-- The default settings. -/
def runner : Runner :=
  ⟨{}, ⟨0, ".threatintel-job-locks", ⟨120000, by decide⟩⟩, ⟨".threatintel-jobs"⟩⟩

/-- The settings with the greatest size of a batch that is accepted. -/
def hoarding : Config.EngineConfig := { rotation := { batchSize := 18446744073709551615 } }

def hoarder : Runner := { runner with config := hoarding }

end Example

section

open Example

/-- A store with an index that an earlier generation has left behind. -/
private def exampleStore : Memory where
  indices := Store.Table.empty.insert "job-1"
    ⟨Store.Table.empty.insert "x" ⟨⟨1, 1⟩, .string "old"⟩, true, false⟩
  lastSeqNo := 1
  faults := {}

private def exampleRun : Program Outcome :=
  (runner.createJob "job" ⟨1, .days, .epoch⟩).bind Run.outcome

private def exampleEnd : Moment :=
  (exampleRun.run (Moment.answeredBy answer) (.start exampleStore)).2

/-- The rows with an indicator are loaded; what was there under the name of the generation is gone. -/
theorem generation_content_example :
    ∃ (i : MemoryIndex) (timestamp : Instant),
      exampleEnd.store.indices.find? "job-1" = some i ∧
        i.sources.Perm (["1.1.1.1", "2.2.2.2"].map fun value =>
          .ofFields [("ioc_type", .string "ip"), ("ioc_value", .string value),
            ("feed_id", .string "job"), ("timestamp", .int timestamp.millis)]) := by
  have ended : Ends (Moment.surroundings (answers feed reply)) exampleRun (.start exampleStore)
      (.ok (.refreshed "job-1")) exampleEnd :=
    Moment.ends_answeredBy answer_allowed exampleRun (.start exampleStore) (by decide +kernel)
  obtain ⟨-, i, timestamp, there, sources⟩ := generation_content (.create ⟨1, .days, .epoch⟩) ended
  have lines : (Feed.dataLines feed.hasHeader (Feed.Lines.ofReply reply).texts).filterMap
      feed.indicatorOf? = ["1.1.1.1", "2.2.2.2"] := by decide +kernel
  rw [Feed.Metadata.documents, lines] at sources
  exact ⟨i, timestamp, there, sources⟩

end

end Runner

end IndicatorFeeds

import IndicatorFeeds.Proofs.Runner.Reachable

namespace IndicatorFeeds

open Store (Memory MemoryIndex Call)
open Program Rotation

theorem Feed.checkHeader_eq_ok_iff {previous current : List String} :
    checkHeader previous current = .ok () ↔ ∀ field ∈ previous, field ∈ current := by
  unfold checkHeader
  cases missing : previous.filter (!current.contains ·) with
  | nil => simpa using missing
  | cons field rest =>
    have lacks : field ∈ previous.filter (!current.contains ·) := missing ▸ List.mem_cons_self ..
    simp only [List.mem_filter, List.contains_eq_mem, Bool.not_eq_true', decide_eq_false_iff_not]
      at lacks
    exact ⟨nofun, fun all => absurd (all field lacks.1) lacks.2⟩

namespace Runner

variable {r : Runner} {allows : (r : Request) → r.Answer → Prop} {name : String}
  {record final : Job.Record} {feed : Feed.Metadata} {header : List String} {may : String → Prop}
  {m : Memory}

/-- A job has one feed, and whatever is sent for it is answered by a success that can be read with
this header. -/
structure Supplied (r : Runner) (allows : (r : Request) → r.Answer → Prop) (name : String)
    (feed : Feed.Metadata) (header : List String) : Prop where
  found : ∀ found, allows (.feedFor name) found → found = .ok (some feed)
  sendable : ∃ request, r.Sends feed request
  answered : ∀ request reply, r.Sends feed request → allows (.http request) reply →
    ∃ success, reply = some success ∧ success.status = 200 ∧
      Feed.Readable feed header (.ofReply success)

namespace Supplied

variable (supplied : r.Supplied allows name feed header)

include supplied

theorem reads {reader : Feed.Reader} (reads : r.Reads allows feed reader) :
    reader.fields = header ∧ reader.failure = none := by
  obtain ⟨request, reply, sends, allowed, opened⟩ := reads
  obtain ⟨_, same, -, readable⟩ := supplied.answered request _ sends allowed
  obtain rfl := Option.some.inj same
  obtain ⟨_, opened', fields, whole⟩ := readable.opened
  obtain rfl := Except.ok.inj (opened.symm.trans opened')
  exact ⟨fields, whole⟩

theorem not_unread {e : Error} : ¬r.Unread allows feed e := by
  rintro (unsendable | ⟨sends, unanswered⟩ | ⟨sends, replied, refused⟩ |
    ⟨sends, replied, unreadable⟩)
  · obtain ⟨_, _, prepared, -⟩ := supplied.sendable
    cases unsendable.symm.trans prepared
  · obtain ⟨_, same, -⟩ := supplied.answered _ _ sends unanswered
    cases same
  · obtain ⟨_, same, status, -⟩ := supplied.answered _ _ sends replied
    obtain rfl := Option.some.inj same
    simp [Http.Reply.statusError?, status] at refused
  · obtain ⟨_, same, -, readable⟩ := supplied.answered _ _ sends replied
    obtain rfl := Option.some.inj same
    obtain ⟨_, opened, -⟩ := readable.opened
    cases unreadable.symm.trans opened

/-- A job with a feed that is supplied is not kept from being served, unless by the store. -/
theorem not_cause {e : Error} (named : record.name = name)
    (accepted : ∀ field ∈ record.feedFields, field ∈ header) (working : m.faults = {})
    (writable : m.isBlocked r.records.index = false) : ¬r.Cause allows record m e := by
  subst named
  rintro (unfit | ⟨feed', found, hindered⟩)
  · cases unfit with
    | catalog answer | unlisted answer => cases supplied.found _ answer
    | unread found unread =>
      obtain rfl := Option.some.inj (Except.ok.inj (supplied.found _ found))
      exact supplied.not_unread unread
    | header found reads refused =>
      obtain rfl := Option.some.inj (Except.ok.inj (supplied.found _ found))
      rw [(supplied.reads reads).1] at refused
      cases refused.symm.trans (Feed.checkHeader_eq_ok_iff.mpr accepted)
  · obtain rfl := Option.some.inj (Except.ok.inj (supplied.found _ found))
    cases hindered with
    | body reads broken => cases (supplied.reads reads).2.symm.trans broken
    | fault spoils => simp [Store.Faults.Spoils, working] at spoils
    | record blocked => cases writable.symm.trans blocked

end Supplied

theorem Swapped.serves {fields kept : List String}
    (made : r.Swapped allows record feed fields kept final) :
    final.state = .available ∧ final.updateEnabled = true ∧
      final.currentIndex = some (r.nextIndex record feed) ∧ final.feedFields = fields := by
  obtain ⟨generation, millis, succeeded, enabled, now, -, -, -, -, rfl, rfl⟩ := made
  unfold Job.Record.enable
  split
  · rename_i on
    exact ⟨rfl, on, List.getLast?_concat, rfl⟩
  · exact ⟨rfl, rfl, List.getLast?_concat, rfl⟩

/-- A job at rest with a feed that is supplied is served by its refresh, if the store has no faults. -/
private theorem Refreshed.serves {m' : Memory} {result : Except Failure Outcome}
    (refreshed : r.Refreshed allows name m m' result) (ready : r.Ready allows name may m)
    (holds : r.records.Holds m name record) (rest : record.AtRest)
    (supplied : r.Supplied allows name feed header)
    (accepted : ∀ field ∈ record.feedFields, field ∈ header) (working : m.faults = {})
    (leasable : m.isBlocked r.leases.index = false) (same : m'.faults = m.faults)
    (writable : m'.isBlocked r.records.index = false) :
    result = .ok (.refreshed (r.nextIndex record feed)) ∧ ∃ final, r.records.Holds m' name final ∧
      final.state = .available ∧ final.updateEnabled = true ∧
        final.currentIndex = some (r.nextIndex record feed) ∧ final.feedFields = header := by
  have named := ready.named record holds
  cases refreshed with
  | barred barred =>
    have failing := (barred.of_free ready.free leasable).1
    simp [working] at failing
  | unknown unknown =>
    cases unknown with
    | absent missing => exact absurd missing holds.present
    | unreadable none => exact absurd holds (none record)
  | deleting holds' deleting =>
    obtain rfl := holds.unique holds'
    have state := rest.state
    rw [deleting] at state
    exact absurd state (by decide)
  | aborted aborting => exact absurd aborting (ready.unaborted _)
  | executed holds' _ executed =>
    obtain rfl := holds.unique holds'
    cases executed with
    | @refreshed feed' reader final _ _ _ found reads _ _ made stored =>
      rw [named] at found stored
      obtain rfl := Option.some.inj (Except.ok.inj (supplied.found _ found))
      obtain ⟨state, enabled, current, fields⟩ := made.serves
      exact ⟨rfl, final, stored, state, enabled, current,
        fields.trans (supplied.reads reads).1⟩
    | failed cause =>
      exact absurd cause (supplied.not_cause named accepted (same.trans working) writable)
    | unrecorded blocked => cases writable.symm.trans blocked

/-- Whatever has been done to a store that was empty at its start, the refresh of a job that has a
record there ends, once the store has no faults and the feed is supplied with all recorded fields;
and however it goes, it ends with the next index served if there is room for a batch, and never if there
is none. -/
theorem refresh_recovers {config : Config.EngineConfig} {service : Nat}
    (created : Runner.create config service = .ok r) (default : config.store = {})
    (reached : r.Leads r.InRange .empty m) (holds : r.records.Holds m name record)
    (inRange : r.InRange allows) (total : ∀ q, ∃ a, allows q a)
    (supplied : r.Supplied allows name feed header)
    (accepted : ∀ field ∈ record.feedFields, field ∈ header) :
    (∃ result y, Ends (Moment.surroundings allows) ((r.refreshJob name).bind Run.outcome)
      (.start m.clearFaults) result y) ∧
    ∀ result y, Ends (Moment.surroundings allows) ((r.refreshJob name).bind Run.outcome)
      (.start m.clearFaults) result y →
        (r.Roomy → ∃ index final, index = nextName
            (baseName r.config.rotation.dataIndexPrefix name feed.feedId) record.currentIndex ∧
          result = .ok (.refreshed index) ∧ r.records.Holds y.store name final ∧
            final.state = .available ∧ final.updateEnabled = true ∧
              final.currentIndex = some index ∧ final.feedFields = header) ∧
        (¬r.Roomy → ∀ index, result ≠ .ok (.refreshed index)) := by
  refine ⟨⟨_, _, Moment.ends_answered (fun q => (total q).choose_spec) _ _⟩,
    fun result y ended => ⟨fun roomy => ?_, ?_⟩⟩
  swap
  · rintro crowded index rfl
    exact crowded (finished_of_loads (.refreshes .onDemand) ended).1
  have cleared : r.Leads r.InRange .empty m.clearFaults := reached.tail (.faults m {})
  have orderly := cleared.orderly created default roomy orderly_empty
  have sound := orderly.sound name record holds
  have ready : r.Ready allows name (fun _ => True) m.clearFaults :=
    orderly.ready created default roomy inRange (fun _ _ _ _ => trivial) fun _ _ _ _ => trivial
  obtain ⟨confined, -, refreshed⟩ :=
    (ready.extent.along_refresh.moved .refl fun _ _ _ => .trans).ended ended
  have writable : y.store.isBlocked r.records.index = false :=
    (confined.blocked _ fun data => data.2 rfl).trans orderly.writable
  have serves := refreshed.serves ready holds sound.rest supplied accepted rfl orderly.leasable
    confined.faults writable
  rw [nextIndex, sound.named] at serves
  obtain ⟨same, final, stored⟩ := serves
  exact ⟨_, final, rfl, same, stored⟩

section

open Example

private theorem readable_reply : Feed.Readable Example.feed ["ip", "seen"] (.ofReply reply) := by
  have lines : Feed.Lines.ofReply reply =
      ⟨["# today", "ip,seen", "1.1.1.1,x", "", "# end", " ,y", " 2.2.2.2 ,z"], none⟩ := by
    decide +kernel
  have paired : ∀ line ∈ ["1.1.1.1,x", "", "# end", " ,y", " 2.2.2.2 ,z"],
      ¬Delimited.hasOddQuotes line.toList = true := by decide +kernel
  rw [lines]
  refine ⟨rfl, by decide, Delimited.parseLine ⟨',', by decide⟩, "ip,seen", _, ["ip", "seen"], rfl,
    by rfl, by rfl, rfl, rfl, fun line member _ => ?_⟩
  exact ⟨_, if_neg (paired line member)⟩

private theorem supplied_same (r : Runner) : r.Supplied Same "job" Example.feed ["ip", "seen"] where
  found := fun _ found => found
  sendable := by
    have sendable : (Http.prepare .get Example.feed.url []).toOption.isSome = true := by
      decide +kernel
    cases prepared : Http.prepare .get Example.feed.url [] with
    | error => simp [prepared, Except.toOption] at sendable
    | ok request => exact ⟨_, request, prepared, rfl⟩
  answered := fun _ _ _ replied => ⟨reply, replied, rfl, readable_reply⟩

/-- The deletion of a job has failed and has removed what the job serves; its refresh serves the
first index again. -/
theorem refresh_recovers_undeleted : ∃ y final,
    Ends (Moment.surroundings Same) ((runner.refreshJob "job").bind Run.outcome)
      (.start undeleted.clearFaults) (.ok (.refreshed "job-1")) y ∧
    runner.records.Holds y.store "job" final ∧ final.state = .available ∧
      final.currentIndex = some "job-1" ∧ final.feedFields = ["ip", "seen"] := by
  have created : Runner.create {} 0 = .ok runner := by rfl
  obtain ⟨record, holds, indices, fields⟩ := holds_undeleted
  obtain ⟨⟨result, y, ended⟩, serves⟩ := refresh_recovers created rfl (leads_undeleted inRange_same)
    holds inRange_same (fun q => ⟨answer q, rfl⟩) (supplied_same runner) fun _ => fields ▸ id
  obtain ⟨index, final, next, rfl, stored, state, -, current, header⟩ :=
    (serves result y ended).1 roomy_runner
  have first : index = "job-1" := by
    rw [next, Job.Record.currentIndex, indices]
    decide +kernel
  subst first
  exact ⟨y, final, ended, stored, state, current, header⟩

/-- A job has been created whose first index could not be made. -/
private def unmade : Memory :=
  storeAfter creation { Memory.empty with faults := { failingCreation := ["job-1"] } }

private def retry : Program Outcome := (hoarder.refreshJob "job").bind Run.outcome

/-- Where there is no room for a batch, the refresh of a job that has failed to load is aborted, though
the store has no faults any more and the feed can be read. -/
theorem refresh_aborted : ∃ record y, Runner.create hoarding 0 = .ok hoarder ∧
    hoarder.Leads hoarder.InRange .empty unmade ∧ hoarder.records.Holds unmade "job" record ∧
      record.state = .createFailed ∧ record.feedFields = [] ∧
        hoarder.Supplied Same "job" Example.feed ["ip", "seen"] ∧
          Ends (Moment.surroundings Same) retry (.start unmade.clearFaults)
            (.ok (.failed "task aborted")) y := by
  have left : ((unmade.document? ".threatintel-jobs" "job").bind fun stored =>
      (Job.Record.fromJson? (.ofValue stored.source)).map fun record =>
        (record.state, record.feedFields)) = some (.createFailed, []) := by
    decide +kernel
  obtain ⟨stored, there, left⟩ := Option.bind_eq_some_iff.mp left
  obtain ⟨record, decoded, left⟩ := Option.map_eq_some_iff.mp left
  obtain ⟨state, fields⟩ := Prod.mk.inj left
  have reached : hoarder.Leads hoarder.InRange .empty unmade :=
    leads_operation inRange_same (.create _) (.single (.faults _ _))
  have allowed (q : Request) : Same q (answer q) := rfl
  exact ⟨record, _, by rfl, reached, ⟨stored, there, decoded⟩, state, fields, supplied_same hoarder,
    Moment.ends_answeredBy allowed retry _ (by decide +kernel)⟩

end

end Runner

end IndicatorFeeds

import IndicatorFeeds.Proofs.Lease.Tenancy
import IndicatorFeeds.Proofs.Runner.Listed
import IndicatorFeeds.Proofs.Runner.Recovery
import IndicatorFeeds.Proofs.Runner.Sealed

/-!
The history of a job. Whatever is done to a job that is not deleted, its record goes on from what was
recorded before: it loses no field and no time, its times do not go back, and an update that succeeds
is all that gives it another schedule.
-/

namespace IndicatorFeeds

open Store (Memory)
open Program Rotation

/-- A time is neither before nor after a span of time. -/
def Instant.Within (t start stop : Instant) : Prop := start ≤ t ∧ t ≤ stop

namespace Job.Record

variable {start stop : Instant} {record record' record'' : Record} {t t' t'' : Option Instant}

/-- A time that has been set stays set, and does not go back. -/
def Onward (t t' : Option Instant) : Prop := ∀ a, t = some a → ∃ b, t' = some b ∧ a ≤ b

/-- What is recorded later: every field and every time is still there, and no time is earlier; a job
that serves an index goes on serving one. -/
structure Precedes (record record' : Record) : Prop where
  fields : ∀ field ∈ record.feedFields, field ∈ record'.feedFields
  succeeded : Onward record.updateStats.lastSucceededAt record'.updateStats.lastSucceededAt
  failed : Onward record.updateStats.lastFailedAt record'.updateStats.lastFailedAt
  skipped : Onward record.updateStats.lastSkippedAt record'.updateStats.lastSkippedAt
  written : record.lastUpdateTime ≤ record'.lastUpdateTime
  serving : record.indices ≠ [] → record'.indices ≠ []

/-- No time of a record is later than this. -/
structure Until (time : Instant) (record : Record) : Prop where
  succeeded : ∀ t, record.updateStats.lastSucceededAt = some t → t ≤ time
  failed : ∀ t, record.updateStats.lastFailedAt = some t → t ≤ time
  skipped : ∀ t, record.updateStats.lastSkippedAt = some t → t ≤ time
  written : record.lastUpdateTime ≤ time

/-- A time is left as it is, or set to one of a span of time. -/
def Stamped (start stop : Instant) (t t' : Option Instant) : Prop :=
  t' = t ∨ ∃ now, t' = some now ∧ now.Within start stop

/-- What is made of a record in a span of time. -/
structure Continues (start stop : Instant) (record record' : Record) : Prop where
  fields : ∀ field ∈ record.feedFields, field ∈ record'.feedFields
  succeeded : Stamped start stop record.updateStats.lastSucceededAt
    record'.updateStats.lastSucceededAt
  failed : Stamped start stop record.updateStats.lastFailedAt record'.updateStats.lastFailedAt
  skipped : Stamped start stop record.updateStats.lastSkippedAt record'.updateStats.lastSkippedAt
  written : record'.lastUpdateTime.Within start stop
  serving : record.indices ≠ [] → record'.indices ≠ []

private theorem Onward.refl (t : Option Instant) : Onward t t :=
  fun a set => ⟨a, set, Int.le_refl a.millis⟩

private theorem Onward.trans (first : Onward t t') (second : Onward t' t'') : Onward t t'' := by
  intro a set
  obtain ⟨b, set, earlier⟩ := first a set
  obtain ⟨c, set, later⟩ := second b set
  exact ⟨c, set, Instant.le_trans earlier later⟩

private theorem Stamped.onward (stamped : Stamped start stop t t')
    (past : ∀ a, t = some a → a ≤ start) : Onward t t' := by
  rcases stamped with rfl | ⟨now, set, after, -⟩
  · exact .refl _
  · exact fun a was => ⟨now, set, Instant.le_trans (past a was) after⟩

private theorem Stamped.past (stamped : Stamped start stop t t')
    (past : ∀ a, t = some a → a ≤ stop) : ∀ a, t' = some a → a ≤ stop := by
  rcases stamped with rfl | ⟨now, set, -, before⟩
  · exact past
  · intro a is
    obtain rfl := Option.some.inj (set.symm.trans is)
    exact before

theorem Precedes.refl (record : Record) : record.Precedes record :=
  ⟨fun _ => id, .refl _, .refl _, .refl _, Int.le_refl _, id⟩

theorem Precedes.trans (first : record.Precedes record') (second : record'.Precedes record'') :
    record.Precedes record'' where
  fields := fun field there => second.fields field (first.fields field there)
  succeeded := first.succeeded.trans second.succeeded
  failed := first.failed.trans second.failed
  skipped := first.skipped.trans second.skipped
  written := Instant.le_trans first.written second.written
  serving := second.serving ∘ first.serving

theorem Until.mono (past : record.Until start) (later : start ≤ stop) : record.Until stop where
  succeeded := fun t set => Instant.le_trans (past.succeeded t set) later
  failed := fun t set => Instant.le_trans (past.failed t set) later
  skipped := fun t set => Instant.le_trans (past.skipped t set) later
  written := Instant.le_trans past.written later

theorem Continues.precedes (continues : Continues start stop record record')
    (past : record.Until start) : record.Precedes record' where
  fields := continues.fields
  succeeded := continues.succeeded.onward past.succeeded
  failed := continues.failed.onward past.failed
  skipped := continues.skipped.onward past.skipped
  written := Instant.le_trans past.written continues.written.1
  serving := continues.serving

theorem Continues.until (continues : Continues start stop record record')
    (past : record.Until stop) : record'.Until stop where
  succeeded := continues.succeeded.past past.succeeded
  failed := continues.failed.past past.failed
  skipped := continues.skipped.past past.skipped
  written := continues.written.2

theorem continues_writtenAt (record : Record) {now : Instant} (within : now.Within start stop) :
    Continues start stop record (record.writtenAt now) :=
  ⟨fun _ => id, .inl rfl, .inl rfl, .inl rfl, within, id⟩

end Job.Record

namespace Runner

variable {r : Runner} {allows : (r : Request) → r.Answer → Prop} {name : String}
  {start stop : Instant} {record record' : Job.Record} {failureState : Job.State} {m m' : Memory}

/-- A store has a record of the job that goes on from this one, and that has another schedule only if
something has changed it. -/
def GoesOn (r : Runner) (name : String) (record : Job.Record) (changed : Prop) (m : Memory) : Prop :=
  ∃ record', r.records.Holds m name record' ∧ record.Precedes record' ∧
    (record'.schedule = record.schedule ∨ changed)

theorem GoesOn.of_document? {changed : Prop} (holds : r.records.Holds m name record)
    (same : m'.document? r.records.index name = m.document? r.records.index name) :
    r.GoesOn name record changed m' :=
  ⟨record, holds.of_document? same.symm, .refl record, .inl rfl⟩

section

variable (told : ∀ t, Tells allows t → t.Within start stop)

include told

private theorem Rotates.continues (rotates : r.Rotates allows record failureState record') :
    record.Continues start stop record' ∧ record'.schedule = record.schedule := by
  cases rotates with
  | marked allowed => exact ⟨{ Job.Record.continues_writtenAt record (told _ allowed) with }, rfl⟩
  | @swapped feed reader kept final found gate made listed =>
    obtain ⟨generation, millis, succeeded, enabled, now, allowed, -, allowed', -, header, rfl⟩ := made
    have fields := Feed.checkHeader_eq_ok_iff.mp gate
    rw [← header] at fields
    unfold Job.Record.enable
    split
    · exact ⟨⟨fields, .inr ⟨succeeded, rfl, told _ allowed⟩, .inl rfl, .inl rfl, told _ allowed',
        fun _ => by simp [Job.Record.writtenAt]⟩, rfl⟩
    · exact ⟨⟨fields, .inr ⟨succeeded, rfl, told _ allowed⟩, .inl rfl, .inl rfl, told _ allowed',
        fun _ => by simp [Job.Record.writtenAt]⟩, rfl⟩
  | @failed now later allowed allowed' =>
    refine ⟨?_, afterFailure_schedule record failureState now⟩
    unfold afterFailure
    split <;> exact ⟨fun _ => id, .inl rfl, .inr ⟨now, rfl, told _ allowed⟩, .inl rfl,
      told _ allowed', id⟩

private theorem Noted.continues (noted : Noted allows record record') :
    record.Continues start stop record' ∧ record'.schedule = record.schedule := by
  cases noted with
  | stopped now later _ allowed allowed' =>
    exact ⟨⟨fun _ => id, .inl rfl, .inr ⟨now, rfl, told _ allowed⟩, .inl rfl, told _ allowed', id⟩,
      rfl⟩
  | skipped now later _ allowed allowed' =>
    exact ⟨⟨fun _ => id, .inl rfl, .inl rfl, .inr ⟨now, rfl, told _ allowed⟩, told _ allowed', id⟩,
      rfl⟩

private theorem Updated.continues (updated : Updated allows record record') :
    record.Continues start stop record' ∧ (record'.schedule = record.schedule ∨
      record.schedule.sameInterval record'.schedule = .ok false) := by
  obtain @⟨schedule, changed, later, -, -, rescheduled, switched, allowed⟩ := updated
  have same : (changed.writtenAt later).schedule = schedule := switched.parts.2.1
  refine ⟨?_, same ▸ rescheduled⟩
  have written := told _ allowed
  cases switched with
  | left | off => exact ⟨fun _ => id, .inl rfl, .inl rfl, .inl rfl, written, id⟩
  | on now =>
    unfold Job.Record.enable
    split <;> exact ⟨fun _ => id, .inl rfl, .inl rfl, .inl rfl, written, id⟩

private theorem Erases.continues (erases : r.Erases allows name m (some record')) :
    ∃ record, r.records.Holds m name record ∧
      record.Continues start stop record' ∧ record'.schedule = record.schedule := by
  cases erases with
  | marked holds allowed =>
    exact ⟨_, holds, { Job.Record.continues_writtenAt _ (told _ allowed) with }, rfl⟩
  | restored holds allowed =>
    exact ⟨_, holds, Job.Record.continues_writtenAt _ (told _ allowed), rfl⟩

private theorem Begins.until (begins : r.Begins allows name m record failureState)
    (past : ∀ record, r.records.Holds m name record → record.Until stop) : record.Until stop := by
  cases begins with
  | ticked holds | asked holds => exact past _ holds
  | created now later _ _ allowed =>
    have never (t : Instant) (set : none = some t) : t ≤ stop := by cases set
    exact ⟨never, never, never, (told _ allowed).2⟩

private theorem MayWrite.until (wrote : r.MayWrite allows name m (some record'))
    (past : ∀ record, r.records.Holds m name record → record.Until stop) : record'.Until stop := by
  rcases wrote with writes | erases
  · cases writes with
    | begun absent begins => exact begins.until told past
    | rotated begins rotates => exact (rotates.continues told).1.until (begins.until told past)
    | rewritten holds rewritten =>
      rcases rewritten with noted | updated
      · exact (noted.continues told).1.until (past _ holds)
      · exact (updated.continues told).1.until (past _ holds)
  · obtain ⟨record, holds, continues, -⟩ := erases.continues told
    exact continues.until (past record holds)

/-- An operation that is neither an update nor a deletion leaves the schedule of a record. -/
private theorem Writes.continues {rewrites : Job.Record → Job.Record → Prop}
    (writes : r.Writes allows name m rewrites (some record'))
    (holds : r.records.Holds m name record) (noted : rewrites record record' →
      Noted allows record record') :
    record.Continues start stop record' ∧ record'.schedule = record.schedule := by
  cases writes with
  | begun absent => exact absurd absent holds.present
  | rotated begins rotates =>
    cases begins with
    | ticked holds' | asked holds' =>
      obtain rfl := holds.unique holds'
      exact rotates.continues told
    | created _ _ absent => exact absurd absent holds.present
  | rewritten holds' rewritten =>
    obtain rfl := holds.unique holds'
    exact (noted rewritten).continues told

omit told in
private theorem Recorded.goes_on {writes : Option Job.Record → Prop} {changed : Prop}
    (recorded : r.Recorded name writes m m') (holds : r.records.Holds m name record)
    (past : record.Until start) (present : writes none → m'.document? r.records.index name ≠ none)
    (continues : ∀ record', writes (some record') →
      record.Continues start stop record' ∧ record'.schedule = record.schedule) :
    r.GoesOn name record changed m' := by
  cases recorded with
  | kept same => exact .of_document? holds same
  | removed allowed gone => exact absurd gone (present allowed)
  | written allowed stored =>
    obtain ⟨continues, same⟩ := continues _ allowed
    exact ⟨_, stored, continues.precedes past, .inl same⟩

end

/-- A deletion of a job has succeeded. -/
inductive Deletes (r : Runner) (name : String) : {α : Type} → Program α → Except Failure α → Prop where
  | mk : Deletes r name (r.deleteJob name) (.ok ())

/-- An update of a job has succeeded that gives a record another interval. -/
inductive Reschedules (r : Runner) (name : String) (record : Job.Record) :
    {α : Type} → Program α → Except Failure α → Prop where
  | mk {update : JobUpdate} {record' : Job.Record}
      (changed : record.schedule.sameInterval record'.schedule = .ok false) :
      Reschedules r name record (r.updateJob name update) (.ok record')

/-- A deletion that fails leaves a record behind. -/
private theorem present_of_deletion {may : String → Prop} {failure : Failure} {y : Moment}
    (footprint : r.Footprint allows name may m)
    (present : m.document? r.records.index name ≠ none)
    (ended : Ends (Moment.surroundings allows) (r.deleteJob name) (.start m) (.error failure) y) :
    y.store.document? r.records.index name ≠ none := by
  match failure with
  | .fault f => exact record_of_deletion_fault footprint present ended
  | .error e =>
  rcases (along_deleteJob footprint).ended ended with ⟨deleted, -⟩ | ⟨untouched, -⟩
  · cases deleted with
    | unknown _ same | unmarked _ same =>
      rw [same.document? footprint.apart]
      exact present
    | undone _ _ _ _ _ restored => exact restored.present
  · rw [untouched.record footprint.apart]
    exact present

/-- An operation that does not delete its job leaves a record that goes on from the one before, with
the same schedule unless an update has given it another. -/
private theorem Operates.goes_on {p : Program α} {result : Except Failure α} {may : String → Prop}
    {y : Moment} (operates : r.Operates name p) (footprint : r.Footprint allows name may m)
    (told : ∀ t, Tells allows t → t.Within start stop) (holds : r.records.Holds m name record)
    (past : record.Until start)
    (ended : Ends (Moment.surroundings allows) p (.start m) result y)
    (spares : ¬r.Deletes name p result) :
    r.GoesOn name record (r.Reschedules name record p result) y.store := by
  have extent := footprint.extent
  cases operates with
  | create schedule =>
    have confined := Confined.of_moves ((extent.along_create schedule).reached ended).2
    exact confined.recorded.goes_on holds past nofun fun _ writes =>
      writes.continues told holds False.elim
  | refresh =>
    have confined := Confined.of_moves (extent.along_refresh.reached ended).2
    exact confined.recorded.goes_on holds past nofun fun _ writes =>
      writes.continues told holds False.elim
  | scheduled =>
    have confined := Confined.of_moves (extent.along_runScheduled.reached ended).2
    exact confined.recorded.goes_on holds past nofun fun _ writes => writes.continues told holds id
  | tick =>
    have confined := Confined.of_moves (extent.along_tick.reached ended).2
    exact confined.recorded.goes_on holds past nofun fun _ writes => writes.continues told holds id
  | delete =>
    match result with
    | .ok () => exact absurd .mk spares
    | .error failure =>
      have confined := Confined.of_moves ((along_deleteJob footprint).reached ended).2
      have continues (record' : Job.Record) (erases : r.Erases allows name m (some record')) :
          record.Continues start stop record' ∧ record'.schedule = record.schedule := by
        obtain ⟨before, there, continues⟩ := erases.continues told
        obtain rfl := holds.unique there
        exact continues
      exact confined.recorded.goes_on holds past
        (fun _ => present_of_deletion footprint holds.present ended) continues
  | update update =>
    have renewed := ((extent.along_update update).ended ended).2
    match result with
    | .ok record' =>
      cases renewed with
      | changed there updated stored =>
        obtain rfl := holds.unique there
        obtain ⟨continues, rescheduled⟩ := updated.continues told
        exact ⟨record', stored, continues.precedes past, rescheduled.imp_right .mk⟩
    | .error (.error e) =>
      cases renewed with
      | refused same => exact .of_document? holds same
    | .error (.fault f) =>
      -- The record is the last thing that an update writes, so the fault has come before it.
      refine .of_document? holds ?_
      rw [Memory.document?, Memory.document?, records_of_update_fault footprint.apart ended]

/-- A store, and the time of day. -/
structure Clocked where
  store : Memory
  time : Instant

variable {s s' s₀ : Clocked} {spared : String → Prop}

/-- A program is carried to its end in some time, and is told no other times. -/
inductive Carried {α : Type} (p : Program α) (result : Except Failure α) (s s' : Clocked) : Prop where
  | mk {allows : (q : Request) → q.Answer → Prop} {y : Moment} (later : s.time ≤ s'.time)
      (told : ∀ t, Tells allows t → t.Within s.time s'.time)
      (ended : Ends (Moment.surroundings allows) p (.start s.store) result y)
      (store : s'.store = y.store) : Carried p result s s'

/-- What happens next: time passes and other faults are set, or an operation on a job is carried to
its end. Some jobs are spared by deletions that succeed. -/
inductive Passes (r : Runner) (spared : String → Prop) : Clocked → Clocked → Prop where
  | idle {s : Clocked} (time : Instant) (faults : Store.Faults) (later : s.time ≤ time) :
      Passes r spared s ⟨{ s.store with faults }, time⟩
  | operation {s s' : Clocked} {name : String} {α : Type} {p : Program α} {result : Except Failure α}
      (operates : r.Operates name p) (carried : Carried p result s s')
      (spares : spared name → ¬r.Deletes name p result) : Passes r spared s s'

/-- Any number of operations, one after another. -/
abbrev History (r : Runner) (spared : String → Prop) : Clocked → Clocked → Prop :=
  Relation.ReflTransGen (r.Passes spared)

/-- Every record is kept under the name of its job and lists indices of data, and has no time that is
still to come. -/
structure Dated (r : Runner) (s : Clocked) : Prop where
  tidy : r.Tidy s.store
  past : ∀ name record, r.records.Holds s.store name record → record.Until s.time

theorem dated_empty (time : Instant) : r.Dated ⟨.empty, time⟩ :=
  ⟨tidy_empty, fun _ _ ⟨_, there, _⟩ => by cases there⟩

section

variable {config : Config.EngineConfig} {service : Nat}
  (created : Runner.create config service = .ok r) (default : config.store = {})

include created default

private theorem Passes.dated (passes : r.Passes spared s s') (dated : r.Dated s) : r.Dated s' := by
  cases passes with
  | idle time faults later =>
    exact ⟨dated.tidy, fun name record holds => (dated.past name record holds).mono later⟩
  | @operation _ name _ _ _ operates carried =>
    obtain ⟨later, told, ended, store⟩ := carried
    have confined := dated.tidy.confined created default operates ended
    have past (other : String) (record : Job.Record)
        (holds : r.records.Holds s.store other record) : record.Until s'.time :=
      (dated.past other record holds).mono later
    refine ⟨store ▸ dated.tidy.ended created default operates ended, fun other record holds => ?_⟩
    rw [store] at holds
    by_cases same : other = name
    · subst same
      cases confined.recorded with
      | kept same => exact past other record (holds.of_document? same)
      | removed _ gone => exact absurd gone holds.present
      | written wrote stored =>
        obtain rfl := holds.unique stored
        exact wrote.until told (past other)
    · exact past other record
        (holds.of_document? (confined.documents _ _ (fun data => data.2 rfl) same))

private theorem Dated.history (dated : r.Dated s) (history : r.History spared s s') : r.Dated s' := by
  induction history with
  | refl => exact dated
  | tail _ passes ih => exact passes.dated created default ih

private theorem Passes.goes_on (passes : r.Passes (· = name) s s') (dated : r.Dated s)
    (holds : r.records.Holds s.store name record) :
    r.GoesOn name record (∃ (update : JobUpdate) (updated : Job.Record),
      Carried (r.updateJob name update) (.ok updated) s s' ∧
        record.schedule.sameInterval updated.schedule = .ok false) s'.store := by
  cases passes with
  | idle => exact .of_document? holds rfl
  | @operation _ other _ _ _ operates carried spares =>
    have whole := carried
    obtain @⟨allows, y, later, told, ended, store⟩ := carried
    rw [store]
    by_cases same : other = name
    · subst same
      have footprint := dated.tidy.footprint created default allows other
      obtain ⟨record', stored, precedes, schedule⟩ := operates.goes_on footprint told holds
        (dated.past other record holds) ended (spares rfl)
      refine ⟨record', stored, precedes, schedule.imp_right fun reschedules => ?_⟩
      obtain @⟨update, updated, changed⟩ := reschedules
      exact ⟨update, updated, whole, changed⟩
    · have confined := dated.tidy.confined created default operates ended
      exact .of_document? holds
        (confined.documents r.records.index name (fun data => data.2 rfl) (Ne.symm same))

/-- The record of a job only goes forward. Take any two moments of a history that begins with records
from the past, and between which no deletion of the job has succeeded: if the job has a record at the
first, it has one at the second, and that has every field of the first, no time that is lost or goes
back, and an index if the first has one. It has another schedule only if an update of the job has
succeeded in between that changed its interval. -/
theorem history_goes_forward (dated : r.Dated s₀) (earlier : r.History (fun _ => False) s₀ s)
    (later : r.History (· = name) s s') (holds : r.records.Holds s.store name record) :
    ∃ record', r.records.Holds s'.store name record' ∧ record.Precedes record' ∧
      (record'.schedule = record.schedule ∨
        ∃ (s₁ s₂ : Clocked) (before after : Job.Record) (update : JobUpdate),
          r.History (· = name) s s₁ ∧ r.records.Holds s₁.store name before ∧
            Carried (r.updateJob name update) (.ok after) s₁ s₂ ∧
              before.schedule.sameInterval after.schedule = .ok false ∧
                r.History (· = name) s₂ s') := by
  have dated := dated.history created default earlier
  -- From the end, so that the update that is found is the last one.
  induction later with
  | refl => exact ⟨record, holds, .refl record, .inl rfl⟩
  | @tail t t' history passes ih =>
    obtain ⟨middle, there, precedes, schedule⟩ := ih
    obtain ⟨record', stored, precedes', schedule'⟩ :=
      passes.goes_on created default (dated.history created default history) there
    refine ⟨record', stored, precedes.trans precedes', ?_⟩
    rcases schedule' with same' | ⟨update, updated, carried, changed⟩
    · rcases schedule with same | ⟨s₁, s₂, before, after, update, since, there, carried, changed, rest⟩
      · exact .inl (same'.trans same)
      · exact .inr ⟨s₁, s₂, before, after, update, since, there, carried, changed, rest.tail passes⟩
    · exact .inr ⟨t, t', middle, updated, update, history, there, carried, changed, .refl⟩

end

section

open Example

private theorem Deletes.unit {p : Program α} {result : Except Failure α}
    (deletes : r.Deletes name p result) : Subsingleton α := by
  cases deletes
  infer_instance

private theorem Deletes.ok {p : Program α} {result : Except Failure α}
    (deletes : r.Deletes name p result) : ∃ a, result = .ok a := by
  cases deletes
  exact ⟨(), rfl⟩

/-- Everything is answered as it always is, at this time. -/
private def answerAt (time : Instant) : (q : Request) → q.Answer
  | .now => Reading.whole time
  | q => answer q

/-- What may be answered when everything is answered as it always is, at this time. -/
private def AnsweredAt (time : Instant) (q : Request) (a : q.Answer) : Prop :=
  a = answerAt time q

/-- What a program that is carried out at some time makes of a store. -/
private def carryOut (p : Program α) (time : Instant) (m : Memory) : Moment :=
  (p.run (Moment.answeredBy (answerAt time)) (.start m)).2

private theorem carried_carryOut (p : Program α) (m : Memory) {time later : Instant}
    (le : time ≤ later) : Carried p (p.run (Moment.answeredBy (answerAt later)) (.start m)).1
      ⟨m, time⟩ ⟨(carryOut p later m).store, later⟩ := by
  have allowed (q : Request) : AnsweredAt later q (answerAt later q) := rfl
  refine .mk le (fun t told => ?_) (Moment.ends_answered allowed p (.start m)) rfl
  obtain ⟨reading, told, rfl⟩ := told
  obtain rfl : reading = .whole later := told
  exact ⟨le, Int.le_refl _⟩

private def firstDay : Instant := ⟨86400000, by decide⟩

private def secondDay : Instant := ⟨172800000, by decide⟩

private def thirdDay : Instant := ⟨259200000, by decide⟩

/-- The job refreshes every day, and then every two days. -/
private def daily : Memory :=
  (carryOut ((runner.createJob "job" ⟨1, .days, .epoch⟩).bind Run.outcome) firstDay .empty).store

private def everySecondDay : JobUpdate := { schedule := some ⟨2, .days, .epoch⟩ }

private def slower : Memory := (carryOut (runner.updateJob "job" everySecondDay) secondDay daily).store

/-- The job could not be deleted. -/
private def undeletable : Memory :=
  (carryOut (runner.deleteJob "job") thirdDay
    { slower with faults := { failingDeletion := ["job-1"] } }).store

private def recordIn (m : Memory) : Option Job.Record :=
  (m.document? ".threatintel-jobs" "job").bind fun stored =>
    Job.Record.fromJson? (.ofValue stored.source)

private theorem holds_recordIn {m : Memory} (there : recordIn m = some record) :
    runner.records.Holds m "job" record :=
  Option.bind_eq_some_iff.mp there

private theorem history_undeletable :
    runner.History (· = "job") ⟨daily, firstDay⟩ ⟨undeletable, thirdDay⟩ := by
  have failed : ((runner.deleteJob "job").run (Moment.answeredBy (answerAt thirdDay))
      (.start { slower with faults := { failingDeletion := ["job-1"] } })).1.toOption = none := by
    decide +kernel
  have updated : runner.Passes (· = "job") ⟨daily, firstDay⟩ ⟨slower, secondDay⟩ := by
    refine .operation (.update everySecondDay) (carried_carryOut _ _ (by decide)) fun _ deletes => ?_
    have same := deletes.unit.elim available { available with name := "" }
    exact absurd (congrArg Job.Record.name same) (by decide)
  have faulty : runner.Passes (· = "job") ⟨slower, secondDay⟩
      ⟨{ slower with faults := { failingDeletion := ["job-1"] } }, secondDay⟩ :=
    .idle _ _ (Int.le_refl _)
  have kept : runner.Passes (· = "job")
      ⟨{ slower with faults := { failingDeletion := ["job-1"] } }, secondDay⟩ ⟨undeletable, thirdDay⟩ := by
    refine .operation .delete (carried_carryOut _ _ (by decide)) fun _ deletes => ?_
    obtain ⟨a, ok⟩ := deletes.ok
    rw [ok] at failed
    cases failed
  exact ((Relation.ReflTransGen.single updated).tail faulty).tail kept

/-- A job that has been made and refreshed, and has got another interval, and could not be deleted,
still has all that was recorded first, and another schedule because it has been updated. -/
theorem history_goes_forward_undeletable :
    ∃ record record', runner.records.Holds daily "job" record ∧
      runner.records.Holds undeletable "job" record' ∧ record.Precedes record' ∧
      record.indices = ["job-1"] ∧ record.schedule.period = 1 ∧ record'.schedule.period = 2 ∧
      ∃ (s₁ s₂ : Clocked) (after : Job.Record) (update : JobUpdate),
        Carried (runner.updateJob "job" update) (.ok after) s₁ s₂ := by
  have created : Runner.create {} 0 = .ok runner := by rfl
  have left : (recordIn daily).map (fun record => (record.indices, record.schedule.period)) =
        some (["job-1"], 1) ∧
      (recordIn undeletable).map (·.schedule.period) = some 2 := by decide +kernel
  obtain ⟨first, second⟩ := left
  obtain ⟨record, there, first⟩ := Option.map_eq_some_iff.mp first
  obtain ⟨record', there', second⟩ := Option.map_eq_some_iff.mp second
  obtain ⟨listed, period⟩ := Prod.mk.inj first
  have holds := holds_recordIn there
  have made : runner.Passes (fun _ => False) ⟨.empty, .epoch⟩ ⟨daily, firstDay⟩ :=
    .operation (.create ⟨1, .days, .epoch⟩) (carried_carryOut _ _ (by decide)) False.elim
  obtain ⟨later, stored, precedes, schedule⟩ := history_goes_forward created rfl
    (dated_empty .epoch) (.single made) history_undeletable holds
  obtain rfl := stored.unique (holds_recordIn there')
  refine ⟨record, later, holds, stored, precedes, listed, period, second, ?_⟩
  rcases schedule with same | ⟨s₁, s₂, -, after, update, -, -, carried, -, -⟩
  · rw [same, period] at second
    cases second
  · exact ⟨s₁, s₂, after, update, carried⟩

end

end Runner

end IndicatorFeeds

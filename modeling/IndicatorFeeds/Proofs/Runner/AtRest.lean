import IndicatorFeeds.Proofs.Feed.DataLines
import IndicatorFeeds.Proofs.Runner.Operations

/-!
The records of jobs between operations. No operation leaves a record in a state of its own, ticks
refresh available jobs only, and a job that has never been loaded has nothing that a load leaves.
-/

namespace IndicatorFeeds

open Store (Memory MemoryIndex Call)
open Program Rotation

/-- The record of a job that nobody works at. -/
structure Job.Record.AtRest (record : Job.Record) : Prop where
  state : record.state ∈ [.available, .createFailed, .refreshFailed]
  enabled : record.enabledTime.isSome = record.updateEnabled
  ticked : record.updateEnabled = true → record.state = .available
  unloaded : record.state = .createFailed ↔ record.indices = []
  succeeded : record.updateStats.lastSucceededAt = none ↔ record.indices = []
  header : record.feedFields = [] ↔ record.indices = []
  nodup : record.indices.Nodup

namespace Job.Record.AtRest

variable {record : Job.Record}

theorem writtenAt (rest : record.AtRest) (now : Instant) : (record.writtenAt now).AtRest :=
  { rest with }

theorem recordFailure (rest : record.AtRest) (now : Instant) : (record.recordFailure now).AtRest :=
  { rest with }

theorem recordSkip (rest : record.AtRest) (now : Instant) : (record.recordSkip now).AtRest :=
  { rest with }

theorem withSchedule (rest : record.AtRest) (schedule : Job.Schedule) :
    { record with schedule }.AtRest :=
  { rest with }

theorem disable (rest : record.AtRest) : record.disable.AtRest :=
  { rest with enabled := rfl, ticked := nofun }

theorem enable (rest : record.AtRest) (now : Instant) (state : record.state = .available) :
    (record.enable now).AtRest := by
  unfold Job.Record.enable
  split
  · exact rest
  · exact { rest with enabled := rfl, ticked := fun _ => state }

theorem updateEnabled_eq_false (rest : record.AtRest) (empty : record.indices = []) :
    record.updateEnabled = false := by
  cases enabled : record.updateEnabled with
  | false => rfl
  | true =>
    have available := rest.ticked enabled
    rw [rest.unloaded.mpr empty] at available
    cases available

end Job.Record.AtRest

namespace Runner

variable {r : Runner} {allows : (r : Request) → r.Answer → Prop} {name : String}
  {record record' : Job.Record} {failureState : Job.State} {feed : Feed.Metadata}
  {outcome : Outcome} {m m' : Memory}

private theorem Noted.atRest (noted : Noted allows record record') (rest : record.AtRest) :
    record'.AtRest := by
  cases noted with
  | stopped now later => exact (rest.disable.recordFailure now).writtenAt later
  | skipped now later => exact (rest.recordSkip now).writtenAt later

private theorem Updated.atRest (updated : Updated allows record record') (rest : record.AtRest) :
    record'.AtRest := by
  obtain @⟨schedule, _, later, state, -, -, switched, -⟩ := updated
  have rest := rest.withSchedule schedule
  cases switched with
  | left => exact rest.writtenAt later
  | on now => exact (rest.enable now state).writtenAt later
  | off => exact rest.disable.writtenAt later

private theorem Rewritten.atRest (rewritten : Rewritten allows record record')
    (rest : record.AtRest) : record'.AtRest := by
  cases rewritten with
  | restored later => exact rest.writtenAt later
  | noted noted => exact noted.atRest rest
  | updated updated => exact updated.atRest rest

private theorem Begins.listed (begins : r.Begins allows name m record failureState)
    (rest : ∀ record, r.records.Holds m name record → record.AtRest) :
    record.enabledTime.isSome = record.updateEnabled ∧ record.indices.Nodup := by
  cases begins with
  | ticked holds | asked holds => exact ⟨(rest _ holds).enabled, (rest _ holds).nodup⟩
  | created => exact ⟨rfl, .nil⟩

/-- A refresh that has failed stops ticks, and the job goes on serving what it has served. -/
private theorem atRest_refreshFailed (rest : record.AtRest) (loaded : record.indices ≠ [])
    (now : Instant) : (afterFailure record .refreshFailed now).AtRest :=
  { rest with
    state := .tail _ (.tail _ (.head _))
    enabled := rfl
    ticked := nofun
    unloaded := ⟨nofun, fun empty => absurd empty loaded⟩ }

private theorem atRest_createFailed (off : record.updateEnabled = false)
    (disabled : record.enabledTime = none) (empty : record.indices = [])
    (never : record.updateStats.lastSucceededAt = none) (header : record.feedFields = [])
    (now : Instant) : (afterFailure record .createFailed now).AtRest where
  state := .tail _ (.head _)
  enabled := by
    rw [show (afterFailure record .createFailed now).enabledTime = _ from disabled]
    exact off.symm
  ticked := fun enabled => by cases off.symm.trans enabled
  unloaded := ⟨fun _ => empty, fun _ => rfl⟩
  succeeded := ⟨fun _ => empty, fun _ => never⟩
  header := ⟨fun _ => empty, fun _ => header⟩
  nodup := by
    rw [show (afterFailure record .createFailed now).indices = _ from empty]
    exact .nil

private theorem Begins.atRest_failed (begins : r.Begins allows name m record failureState)
    (rest : ∀ record, r.records.Holds m name record → record.AtRest) (now : Instant) :
    (afterFailure record failureState now).AtRest := by
  cases begins with
  | ticked holds state enabled =>
    have rest := rest record holds
    refine atRest_refreshFailed rest (fun empty => ?_) now
    cases (rest.updateEnabled_eq_false empty).symm.trans enabled
  | asked holds =>
    have rest := rest record holds
    unfold failureStateOf
    cases current : record.currentIndex with
    | some index =>
      refine atRest_refreshFailed rest (fun empty => ?_) now
      rw [Job.Record.currentIndex, empty] at current
      cases current
    | none =>
      have empty : record.indices = [] := List.getLast?_eq_none_iff.mp current
      have off := rest.updateEnabled_eq_false empty
      have disabled : record.enabledTime = none := by
        simpa [off] using rest.enabled
      exact atRest_createFailed off disabled empty (rest.succeeded.mpr empty)
        (rest.header.mpr empty) now
  | created => exact atRest_createFailed rfl rfl rfl rfl rfl now

private theorem atRest_available (state : record.state = .available)
    (enabled : record.enabledTime.isSome = record.updateEnabled)
    (loaded : record.updateStats.lastSucceededAt ≠ none) (header : record.feedFields ≠ [])
    (serves : record.indices ≠ []) (nodup : record.indices.Nodup) : record.AtRest where
  state := state ▸ .head _
  enabled := enabled
  ticked := fun _ => state
  unloaded := ⟨fun failed => (by cases state.symm.trans failed), fun empty => absurd empty serves⟩
  succeeded := ⟨fun never => absurd never loaded, fun empty => absurd empty serves⟩
  header := ⟨fun none => absurd none header, fun empty => absurd empty serves⟩
  nodup := nodup

private theorem Swapped.atRest {fields kept : List String}
    (made : r.Swapped allows record feed fields kept record')
    (enabled : record.enabledTime.isSome = record.updateEnabled) (columns : fields ≠ [])
    (nodup : (kept ++ [r.nextIndex record feed]).Nodup) : record'.AtRest := by
  obtain ⟨generation, millis, succeeded, since, now, -, -, -, -, rfl, rfl⟩ := made
  have serves : kept ++ [r.nextIndex record feed] ≠ [] := by simp
  refine Job.Record.AtRest.writtenAt ?_ now
  unfold Job.Record.enable
  split
  · exact atRest_available rfl enabled nofun columns serves nodup
  · exact atRest_available rfl rfl nofun columns serves nodup

private theorem nodup_kept {kept : List String} (nodup : record.indices.Nodup)
    (all : kept = (r.stale record feed).filter (· ∈ m.faults.failingDeletion)) :
    (kept ++ [r.nextIndex record feed]).Nodup := by
  subst all
  refine List.nodup_append.mpr ⟨(nodup.filter _).filter _, by simp, ?_⟩
  intro i kept next last same
  obtain ⟨stale, -⟩ := List.mem_filter.mp kept
  obtain ⟨-, other⟩ := List.mem_filter.mp stale
  exact of_decide_eq_true other (same.trans (List.mem_singleton.mp last))

private theorem Reads.fields_ne_nil {reader : Feed.Reader} (reads : r.Reads allows feed reader) :
    reader.fields ≠ [] := by
  obtain ⟨_, _, -, -, opened⟩ := reads
  obtain ⟨_, _, _, _, -, -, -, -, column, -⟩ := Feed.Reader.ofLines_eq_ok_iff.mp opened
  exact List.ne_nil_of_length_pos (Nat.zero_lt_of_lt column)

/-- A record as operations on a job leave it: it is the job's, its schedule has an interval, its
indices are some that it may own, and nobody works at it. -/
structure Sound (own : String → Prop) (name : String) (record : Job.Record) : Prop where
  named : record.name = name
  lasting : ∃ span, record.schedule.interval = .ok span
  listed : ∀ i ∈ record.indices, own i
  rest : record.AtRest

variable {own : String → Prop}

private theorem Rewritten.sound (rewritten : Rewritten allows record record')
    (sound : Sound own name record) : Sound own name record' := by
  have rest := rewritten.atRest sound.rest
  cases rewritten with
  | restored => exact ⟨sound.named, sound.lasting, sound.listed, rest⟩
  | noted noted => cases noted <;> exact ⟨sound.named, sound.lasting, sound.listed, rest⟩
  | updated updated =>
    obtain ⟨later, state, lasting, -, switched, -⟩ := updated
    obtain ⟨name, schedule, indices⟩ := switched.parts
    exact ⟨name.trans sound.named, schedule ▸ lasting sound.lasting, fun i member =>
      sound.listed i (indices ▸ member), rest⟩

private theorem Begins.parts (begins : r.Begins allows name m record failureState)
    (sound : ∀ record, r.records.Holds m name record → Sound own name record) :
    record.name = name ∧ (∃ span, record.schedule.interval = .ok span) ∧
      ∀ i ∈ record.indices, own i := by
  cases begins with
  | ticked holds | asked holds =>
    have sound := sound _ holds
    exact ⟨sound.named, sound.lasting, sound.listed⟩
  | created now later absent lasting => exact ⟨rfl, lasting, nofun⟩

theorem Swapped.parts {fields kept : List String}
    (made : r.Swapped allows record feed fields kept record') :
    record'.name = record.name ∧ record'.schedule = record.schedule ∧
      record'.indices = kept ++ [r.nextIndex record feed] := by
  obtain ⟨generation, millis, succeeded, since, now, -, -, -, -, -, rfl⟩ := made
  unfold Job.Record.enable
  split <;> exact ⟨rfl, rfl, rfl⟩

theorem afterFailure_schedule (record : Job.Record) (state : Job.State) (now : Instant) :
    (afterFailure record state now).schedule = record.schedule := by
  unfold afterFailure
  split <;> rfl

/-- The record of a job is sound after an operation if it was before. -/
theorem Turned.sound (turned : r.Turned allows name m m')
    (sound : ∀ record, r.records.Holds m name record → Sound own name record)
    (next : ∀ record feed, record.name = name → allows (.feedFor name) (.ok (some feed)) →
      own (r.nextIndex record feed))
    (writable : m'.isBlocked r.records.index = false) (holds : r.records.Holds m' name record') :
    Sound own name record' := by
  cases turned with
  | kept same => exact sound _ (holds.of_document? same)
  | removed gone => exact absurd gone holds.present
  | rewritten before rewritten stored =>
    obtain rfl := holds.unique stored
    exact rewritten.sound (sound _ before)
  | @executed record failureState _ begins executed =>
    have rests := fun record holds => (sound record holds).rest
    obtain ⟨named, lasting, listed⟩ := begins.parts sound
    obtain ⟨enabled, nodup⟩ := begins.listed rests
    cases executed with
    | @refreshed feed reader final kept _ _ found reads gate whole made stored all =>
      rw [named] at found stored
      obtain rfl := holds.unique stored
      obtain ⟨name', schedule, indices⟩ := made.parts
      refine ⟨name'.trans named, schedule ▸ lasting, fun i member => ?_,
        made.atRest enabled reads.fields_ne_nil (nodup_kept nodup all)⟩
      rw [indices, List.mem_append, List.mem_singleton] at member
      rcases member with kept | rfl
      · rw [all] at kept
        obtain ⟨stale, -⟩ := List.mem_filter.mp kept
        exact listed i (List.mem_filter.mp stale).1
      · exact next record feed named found
    | @failed _ now later cause _ _ stored =>
      rw [named] at stored
      obtain rfl := holds.unique stored
      refine ⟨(afterFailure_name _ _ _).trans named, ?_, ?_,
        (begins.atRest_failed rests now).writtenAt later⟩
      · exact (afterFailure_schedule record failureState now).symm ▸ lasting
      · exact (afterFailure_indices record failureState now).symm ▸ listed
    | unrecorded blocked => cases writable.symm.trans blocked

end Runner

end IndicatorFeeds

import IndicatorFeeds.Proofs.Rotation.Course
import IndicatorFeeds.Proofs.Runner.UnderLease

namespace IndicatorFeeds.Runner

open Store (Memory MemoryIndex Call)
open Program Rotation

variable {r : Runner} {allows : (r : Request) → r.Answer → Prop} {name : String}
  {may : String → Prop} {writes : Option Job.Record → Prop} {x : Moment} {m m' : Memory}

/-- The indices that the record of a job lists and the names of its generations may be changed, and
none of them is an index of the engine's own. -/
structure Extent (r : Runner) (allows : (r : Request) → r.Answer → Prop) (name : String)
    (may : String → Prop) (m : Memory) : Prop where
  apart : r.leases.index ≠ r.records.index
  named : ∀ record, r.records.Holds m name record → record.name = name
  listed : ∀ record, r.records.Holds m name record → ∀ i ∈ record.indices, r.IsData i ∧ may i
  names : ∀ feed, allows (.feedFor name) (.ok (some feed)) →
    ∀ i ∈ generationNames (baseName r.config.rotation.dataIndexPrefix name feed.feedId),
      r.IsData i ∧ may i

/-- So may those that a deletion takes for the generations of a job without a feed. -/
structure Footprint (r : Runner) (allows : (r : Request) → r.Answer → Prop) (name : String)
    (may : String → Prop) (m : Memory) : Prop where
  apart : r.leases.index ≠ r.records.index
  named : ∀ record, r.records.Holds m name record → record.name = name
  listed : ∀ record, r.records.Holds m name record → ∀ i ∈ record.indices, r.IsData i ∧ may i
  names : ∀ found, allows (.feedFor name) (.ok found) →
    ∀ i ∈ generationNames (baseName r.config.rotation.dataIndexPrefix name
      ((found.map (·.feedId)).getD name)), r.IsData i ∧ may i

theorem Footprint.extent (footprint : r.Footprint allows name may m) : r.Extent allows name may m :=
  ⟨footprint.apart, footprint.named, footprint.listed, fun feed found =>
    footprint.names (some feed) found⟩

/-- The lease of a job has been taken, and nothing has been written to an index of data yet. -/
structure Taken (r : Runner) (allows : (r : Request) → r.Answer → Prop) (name : String)
    (x : Moment × Lease) : Prop where
  holds : r.leases.Holds x
  owned : x.2.resource = name
  timely : allows .now x.2.takenAt
  unwritten : r.Unwritten x

/-- Between two stores nothing has changed but leases, and not the lease of the job. -/
structure Untouched (r : Runner) (name : String) (m m' : Memory) : Prop where
  others : ∀ i, i ≠ r.leases.index → m'.indices.find? i = m.indices.find? i
  lease : m'.document? r.leases.index name = m.document? r.leases.index name

theorem Untouched.record (untouched : r.Untouched name m m')
    (apart : r.leases.index ≠ r.records.index) :
    m'.document? r.records.index name = m.document? r.records.index name := by
  rw [Memory.document?, Memory.document?, untouched.others _ apart.symm]

/-- Why an operation on a job does not begin: its lease is held, or cannot be taken. -/
inductive Barred (r : Runner) (name : String) (m : Memory) : Failure → Prop where
  | held (there : m.document? r.leases.index name ≠ none) :
      Barred r name m (.error (.contention s!"job {name} is locked"))
  | refused {e : Error} (refusal : r.leases.Refusal name m e) : Barred r name m (.error e)
  | aborted {f : Fault} (there : m.document? r.leases.index name ≠ none) : Barred r name m (.fault f)

/-- A job is at rest: nobody has its lease, and nothing aborts an operation on it: every time that it may
come by can be reckoned with, as can the interval of its record, and there is room for a batch. -/
structure Ready (r : Runner) (allows : (r : Request) → r.Answer → Prop) (name : String)
    (may : String → Prop) (m : Memory) : Prop extends Footprint r allows name may m where
  free : m.document? r.leases.index name = none
  renewable : ∀ f, ¬r.Untimely allows f
  roomy : r.Roomy
  lasting : ∀ record, r.records.Holds m name record → ∃ span, record.schedule.interval = .ok span

theorem Ready.unaborted (ready : r.Ready allows name may m) (f : Fault) : ¬r.Aborting allows f := by
  rintro (untimely | ⟨-, crowded⟩)
  · exact ready.renewable f untimely
  · exact crowded ready.roomy

/-- The lease of a job that nobody has is refused only if its index cannot be made. -/
theorem Barred.of_free {e : Failure} (free : m.document? r.leases.index name = none)
    (leasable : m.isBlocked r.leases.index = false) (barred : r.Barred name m e) :
    r.leases.index ∈ m.faults.failingCreation ∧
      e = .error (.store (.backend s!"injected create failure for {r.leases.index}")) := by
  cases barred with
  | held there => exact absurd free there
  | aborted there => exact absurd free there
  | refused refusal =>
    cases refusal with
    | creation failing => exact ⟨failing, rfl⟩
    | blocked closed => cases leasable.symm.trans closed
    | unreadable there => exact absurd free there

private theorem untouched_of_changesOnly {y : Moment} (changes : r.leases.ChangesOnly name x y)
    (lease : y.store.document? r.leases.index name = x.store.document? r.leases.index name) :
    r.Untouched name x.store y.store :=
  ⟨changes.indices, lease⟩

theorem along_acquire_taken (fresh : r.Fresh x) :
    Along (Moment.surroundings allows) Eq (r.leases.ChangesOnly name)
      (fun result y => r.leases.ChangesOnly name x y ∧ match result with
        | .ok (some lease) => r.Taken allows name (y, lease)
        | .ok none => r.Untouched name x.store y.store ∧
          x.store.document? r.leases.index name ≠ none
        | .error e => r.Untouched name x.store y.store ∧ r.Barred name x.store e)
      (r.acquire name) x := by
  refine ((LeaseService.along_acquire_took r.leases name _ x).moved (fun x => .refl x)
    fun _ _ _ => .trans).weaken fun result y ended => ?_
  obtain ⟨changes, took⟩ := ended
  refine ⟨changes, ?_⟩
  match result with
  | .ok (some lease) =>
    obtain ⟨holds, owned, timely, -, issued⟩ := took
    refine ⟨holds, owned, timely, fun i => ⟨fun data => ?_, issued⟩⟩
    exact (changes.written i data.1).trans (fresh i data)
  | .ok none => exact ⟨untouched_of_changesOnly changes took.1, took.2⟩
  | .error (.error e) => exact ⟨untouched_of_changesOnly changes took.1, .refused took.2⟩
  | .error (.fault _) => exact ⟨untouched_of_changesOnly changes took.1, .aborted took.2⟩

theorem along_acquireOrContend_taken (fresh : r.Fresh x) :
    Along (Moment.surroundings allows) Eq (r.leases.ChangesOnly name)
      (fun result y => r.leases.ChangesOnly name x y ∧ match result with
        | .ok lease => r.Taken allows name (y, lease)
        | .error e => r.Untouched name x.store y.store ∧ r.Barred name x.store e)
      (r.acquireOrContend name) x := by
  refine along_bind_iff.mpr ((along_acquire_taken fresh).weaken fun result y ended => ?_)
  obtain ⟨changes, ended⟩ := ended
  match result with
  | .ok (some lease) => exact ⟨changes, ended⟩
  | .ok none => exact ⟨changes, ended.1, .held ended.2⟩
  | .error _ => exact ⟨changes, ended⟩

/-- How an operation ends that is done under the lease of a job. -/
def Operated (r : Runner) (allows : (r : Request) → r.Answer → Prop) (name : String) (m : Memory)
    (ends : Except Error α → Memory → Prop) (faulty : Fault → Prop) :
    Except Failure α → Memory → Prop
  | .ok a, m' => ends (.ok a) m' ∧ m'.document? r.leases.index name = none
  | .error (.error e), m' => ends (.error e) m' ∧ m'.document? r.leases.index name = none ∨
    r.Untouched name m m' ∧ r.Barred name m (.error e)
  | .error (.fault f), m' => faulty f ∨ r.Untimely allows f ∨
    r.Untouched name m m' ∧ r.Barred name m (.fault f)

theorem Operated.mono {ends ends' : Except Error α → Memory → Prop} {faulty : Fault → Prop}
    {result : Except Failure α} (operated : r.Operated allows name m ends faulty result m')
    (weaker : ∀ result m', ends result m' → ends' result m') :
    r.Operated allows name m ends' faulty result m' := by
  match result with
  | .ok _ => exact operated.imp_left (weaker _ _)
  | .error (.error _) => exact operated.imp_left (And.imp_left (weaker _ _))
  | .error (.fault _) => exact operated

/-- An operation under a lease is confined to its job, whatever renews the lease meanwhile. -/
theorem along_underLease {work : Program α} {ends : Except Error α → Memory → Prop}
    {faulty : Fault → Prop} (apart : r.leases.index ≠ r.records.index) (fresh : r.Fresh x)
    (ignores : ∀ result, r.leases.Ignores (ends result))
    (along : ∀ y, r.Taken allows name y → r.leases.ChangesOnly name x y.1 →
      Along (r.held allows) (r.held allows).renewals (r.Runs name may writes) (Worked ends faulty) work y) :
    Along (Moment.surroundings allows) Eq (r.Confined name may writes)
      (fun result y => r.Operated allows name x.store ends faulty result y.store)
      (r.underLease name work) x := by
  refine along_bind_iff.mpr ((along_acquireOrContend_taken fresh).mono (fun _ _ => id)
    (fun _ _ => .of_changesOnly apart) fun result y ended => ?_)
  obtain ⟨changes, ended⟩ := ended
  match result with
  | .error (.error e) => exact .inr ended
  | .error (.fault f) => exact .inr (.inr ended)
  | .ok lease =>
  have works : Along (r.held allows) Eq (r.Runs name may writes) (Worked ends faulty)
      (KeepAlive.during work) (y, lease) :=
    Along.during (fun _ _ => .of_renewed apart)
      (fun x a y answered => (held_of_other answered nofun nofun).2) .refl
      (along (y, lease) ended changes)
  refine along_bind_iff.mpr ((along_withLease_confined apart ended.holds ended.owned ended.timely ignores
    works).weaken fun result z returned => ?_)
  match result with
  | .ok (.ok a) => exact returned
  | .ok (.error e) => exact .inl returned
  | .error (.fault f) => exact returned.imp_right .inl

/-- Two stores have the same faults, and the same indices but for leases. -/
structure Agrees (r : Runner) (m m' : Memory) : Prop where
  faults : m'.faults = m.faults
  others : ∀ i, i ≠ r.leases.index → m'.indices.find? i = m.indices.find? i

theorem Agrees.refl (m : Memory) : r.Agrees m m := ⟨rfl, fun _ _ => rfl⟩

theorem Agrees.of_changesOnly {y : Moment} (changes : r.leases.ChangesOnly name x y) :
    r.Agrees x.store y.store := ⟨changes.faults, changes.indices⟩

theorem Agrees.document? (agrees : r.Agrees m m') (apart : r.leases.index ≠ r.records.index) :
    m'.document? r.records.index name = m.document? r.records.index name := by
  rw [Memory.document?, Memory.document?, agrees.others _ apart.symm]

theorem Agrees.ignores (m : Memory) : r.leases.Ignores (r.Agrees m) :=
  fun _ _ faults same agrees =>
    ⟨faults.trans agrees.faults, fun i other => (same i other).trans (agrees.others i other)⟩

/-- Why there is no record to work with. -/
inductive Unknown (r : Runner) (name : String) (m : Memory) : Error → Prop where
  | absent (missing : m.document? r.records.index name = none) :
      Unknown r name m (.notFound s!"job {name}")
  | unreadable (none : ∀ record, ¬r.records.Holds m name record) : Unknown r name m .serialization

theorem along_requireRecord_while {own : Moment × Lease → Moment × Lease → Prop} {x : Moment × Lease}
    (holds : Moment × Lease → Prop) (apart : r.leases.index ≠ r.records.index)
    (agrees : ∀ y, holds y → r.Agrees m y.1.store)
    (kept : ∀ y z, (r.held allows).renewals y z → holds y → holds z) (start : holds x)
    (still : ∀ y, own y y) :
    Along (r.held allows) (r.held allows).renewals own
      (Settles (fun record y => holds y ∧ r.records.Holds m name record)
        fun e y => holds y ∧ r.Unknown name m e) (r.requireRecord name) x := by
  refine along_bind_iff.mpr (along_get_while holds m kept start ?_ ?_ ?_ ?_)
  · intro y a z there answered
    obtain ⟨rfl, rfl⟩ := eq_of_held_read rfl answered
    exact ⟨still _, rfl, z.1.store, rfl, (agrees z there).document? apart⟩
  · exact fun y there none => ⟨there, .unreadable none⟩
  · exact fun y there missing => ⟨there, .absent missing⟩
  · exact fun record y there holds => ⟨there, holds⟩

theorem along_requireRecord {x : Moment × Lease} (apart : r.leases.index ≠ r.records.index)
    (agrees : r.Agrees m x.1.store) :
    Along (r.held allows) (r.held allows).renewals (r.Runs name may writes)
      (Settles (fun record y => r.Agrees m y.1.store ∧ r.records.Holds m name record)
        fun e y => r.Agrees m y.1.store ∧ r.Unknown name m e) (r.requireRecord name) x :=
  along_requireRecord_while (fun y => r.Agrees m y.1.store) apart (fun _ => id)
    (fun _ _ renewals => (Agrees.ignores m).renewals renewals) agrees .refl

end IndicatorFeeds.Runner

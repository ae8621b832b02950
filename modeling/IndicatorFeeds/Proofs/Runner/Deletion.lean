import IndicatorFeeds.Proofs.Rotation.Names
import IndicatorFeeds.Proofs.Rotation.Visibility
import IndicatorFeeds.Proofs.Runner.Begun

/-!
The deletion of a job. Its record is marked, its indices are removed one after another, and at last
the record is removed too. If a fault keeps one of the indices, the record is written back, but the
other indices are gone by then, and the one that the record serves may be among them.
-/

namespace IndicatorFeeds.Runner

open Store (Memory MemoryIndex Call)
open Program Rotation

variable {r : Runner} {allows : (r : Request) → r.Answer → Prop} {name : String}
  {may : String → Prop} {writes : Option Job.Record → Prop} {record : Job.Record}
  {indices : List String} {m m' : Memory}
  {x y : Moment × Lease}

/-- These are the indices of a job: those of its record, and those that its feed gives it. -/
structure Belong (r : Runner) (allows : (r : Request) → r.Answer → Prop) (record : Job.Record)
    (indices : List String) : Prop where
  recorded : ∀ i ∈ record.indices, i ∈ indices
  known : ∀ i ∈ indices, i ∈ record.indices ∨
    ∃ found, allows (.feedFor record.name) (.ok found) ∧
      i ∈ generationNames (baseName r.config.rotation.dataIndexPrefix record.name
        ((found.map (·.feedId)).getD record.name))
  named : ∃ answer, allows (.feedFor record.name) answer ∧ ∀ found, answer = .ok found →
    ∀ i ∈ generationNames (baseName r.config.rotation.dataIndexPrefix record.name
      ((found.map (·.feedId)).getD record.name)), i ∈ indices

/-- What a deletion may make of the record of a job: it is marked, and written back or removed. -/
inductive Erases (r : Runner) (allows : (r : Request) → r.Answer → Prop) (name : String)
    (m : Memory) : Option Job.Record → Prop where
  | marked {record : Job.Record} {now : Instant} (holds : r.records.Holds m name record)
      (allowed : Tells allows now) :
      Erases r allows name m (some ({ record with state := .deleting }.writtenAt now))
  | restored {record : Job.Record} {later : Instant} (holds : r.records.Holds m name record)
      (allowed : Tells allows later) : Erases r allows name m (some (record.writtenAt later))
  | removed : Erases r allows name m none

/-- Between two stores these indices have been removed, but for those that faults keep. -/
structure Cleared (r : Runner) (indices : List String) (m m' : Memory) : Prop where
  faults : m'.faults = m.faults
  others : ∀ i, i ≠ r.leases.index → m'.indices.find? i =
    if i ∈ indices ∧ i ∉ m.faults.failingDeletion then none else m.indices.find? i

theorem Cleared.ignores (indices : List String) (m : Memory) :
    r.leases.Ignores (r.Cleared indices m) := fun _ _ faults same cleared =>
  ⟨faults.trans cleared.faults, fun i other => (same i other).trans (cleared.others i other)⟩

/-- How the deletion of a job ends. -/
inductive Deleted (r : Runner) (allows : (r : Request) → r.Answer → Prop) (name : String)
    (m m' : Memory) : Except Error Unit → Prop where
  | unknown {e : Error} (unknown : r.Unknown name m e) (same : r.Agrees m m') :
      Deleted r allows name m m' (.error e)
  | unmarked (blocked : m.isBlocked r.records.index = true) (same : r.Agrees m m') :
      Deleted r allows name m m' (.error (.store (Memory.blocked r.records.index)))
  | undone {record : Job.Record} {indices : List String} {index : String} {later : Instant}
      (holds : r.records.Holds m name record) (belong : r.Belong allows record indices)
      (member : index ∈ indices) (failing : index ∈ m.faults.failingDeletion)
      (removed : ∀ i, r.IsData i → m'.indices.find? i =
        if i ∈ indices ∧ i ∉ m.faults.failingDeletion then none else m.indices.find? i)
      (restored : r.records.Holds m' name (record.writtenAt later)) :
      Deleted r allows name m m'
        (.error (.store (.backend s!"injected delete failure for {index}")))
  | done {record : Job.Record} {indices : List String} (holds : r.records.Holds m name record)
      (belong : r.Belong allows record indices)
      (working : ∀ i ∈ indices, i ∉ m.faults.failingDeletion)
      (removed : ∀ i, r.IsData i → m'.indices.find? i =
        if i ∈ indices then none else m.indices.find? i)
      (gone : m'.document? r.records.index name = none) : Deleted r allows name m m' (.ok ())

/-- Every index is removed that can be; the deletion fails for one of the others. -/
theorem along_deleteIndices {own : Moment × Lease → Moment × Lease → Prop} (still : ∀ y, own y y)
    (removes : ∀ i ∈ indices, ∀ a y z, r.held allows (.store (.deleteIndex i)) y a z → own y z)
    (agrees : r.Agrees m x.1.store) :
    Along (r.held allows) (r.held allows).renewals own
      (Settles (fun _ y => r.Cleared indices m y.1.store ∧
          ∀ i ∈ indices, i ∉ m.faults.failingDeletion)
        fun e y => r.Cleared indices m y.1.store ∧ ∃ i ∈ indices, i ∈ m.faults.failingDeletion ∧
          e = .store (.backend s!"injected delete failure for {i}"))
      (deleteIndices indices) x := by
  induction indices generalizing m x with
  | nil =>
    refine ⟨⟨agrees.faults, fun i other => ?_⟩, by simp⟩
    simpa using agrees.others i other
  | cons index rest ih =>
    obtain ⟨first, others⟩ := List.forall_mem_cons.mp removes
    refine along_deleteIfThere_while (fun y => r.Agrees m y.1.store)
      (fun _ _ renewals => (Agrees.ignores m).renewals renewals) agrees still ?_ ?_
    · intro y agrees failing
      rw [agrees.faults] at failing
      have cleared {z : Moment × Lease} (cleared : r.Cleared rest m z.1.store) :
          r.Cleared (index :: rest) m z.1.store := by
        refine ⟨cleared.faults, fun i other => (cleared.others i other).trans ?_⟩
        by_cases same : i = index <;> simp [same, failing]
      refine (ih others agrees).attempted (fun _ z ended => ?_) fun e z ended => ?_ <;>
        exact ⟨cleared ended.1, index, List.mem_cons_self .., failing, rfl⟩
    · intro a y z agrees answered working gone
      have faults := (held_faults answered).trans agrees.faults
      rw [agrees.faults] at working
      have cleared {w : Moment × Lease} (cleared : r.Cleared rest z.1.store w.1.store) :
          r.Cleared (index :: rest) m w.1.store := by
        refine ⟨cleared.faults.trans faults, fun i other => (cleared.others i other).trans ?_⟩
        rw [faults, gone, agrees.others i other]
        by_cases same : i = index <;> simp [same, working]
      refine ⟨first a y z answered,
        (ih others (.refl z.1.store)).attempted (fun _ w ended => ?_) fun e w ended => ?_⟩
      · refine ⟨cleared ended.1, fun i member => ?_⟩
        rcases List.mem_cons.mp member with rfl | member
        · exact working
        · exact faults ▸ ended.2 i member
      · obtain ⟨rest, i, member, failing, same⟩ := ended
        exact ⟨cleared rest, i, List.mem_cons_of_mem _ member, faults ▸ failing, same⟩

/-- Between two stores only the record of a job has been written. -/
private structure Marked (r : Runner) (name : String) (m m' : Memory) : Prop where
  faults : m'.faults = m.faults
  data : ∀ i, r.IsData i → m'.indices.find? i = m.indices.find? i
  present : ∃ stored, m'.document? r.records.index name = some stored
  writable : m'.isBlocked r.records.index = false

private theorem marked_of_saved (saved : r.Saved record x y) (agrees : r.Agrees m x.1.store)
    (named : record.name = name) : r.Marked name m y.1.store where
  faults := saved.faults.trans agrees.faults
  data := fun i data => (saved.at data ⟨rfl, rfl⟩).contents.trans (agrees.others i data.1)
  present := named ▸ ⟨_, saved.document?⟩
  writable := (saved.isBlocked _).trans saved.1

theorem Cleared.records {m₁ : Memory} (cleared : r.Cleared indices m₁ m')
    (apart : r.leases.index ≠ r.records.index) (data : ∀ i ∈ indices, r.IsData i) :
    m'.indices.find? r.records.index = m₁.indices.find? r.records.index :=
  (cleared.others _ apart.symm).trans (if_neg fun removed => (data _ removed.1).2 rfl)

private theorem Cleared.removed {m₁ : Memory} (cleared : r.Cleared indices m₁ m')
    (marked : r.Marked name m m₁) {i : String} (data : r.IsData i) :
    m'.indices.find? i =
      if i ∈ indices ∧ i ∉ m.faults.failingDeletion then none else m.indices.find? i := by
  rw [cleared.others i data.1, marked.faults, marked.data i data]

/-- A deletion that an index has stopped writes the record back. -/
private theorem along_restore {m₁ : Memory} {restored : Job.Record} {index : String}
    (footprint : r.Footprint allows name may m) (holds : r.records.Holds m name record)
    (belong : r.Belong allows record indices) (data : ∀ i ∈ indices, r.IsData i)
    (marked : r.Marked name m m₁) (member : index ∈ indices)
    (failing : index ∈ m₁.faults.failingDeletion)
    (same : ∀ later, restored.writtenAt later = record.writtenAt later)
    (cleared : r.Cleared indices m₁ x.1.store) :
    Along (r.held allows) (r.held allows).renewals (r.Runs name may (r.Erases allows name m))
      (Settles (fun a y => r.Deleted allows name m y.1.store (.ok a))
        fun e y => r.Deleted allows name m y.1.store (.error e))
      ((r.saveQuietly restored).bind fun _ =>
        Program.error (.store (.backend s!"injected delete failure for {index}"))) x := by
  have named := footprint.named record holds
  refine along_bind_iff.mpr (along_bind_iff.mpr (along_save_while
    (fun y => r.Cleared indices m₁ y.1.store)
    (fun _ _ renewals => (Cleared.ignores indices m₁).renewals renewals) cleared .refl ?_ ?_))
  · intro (later : Instant) y z cleared allowed saved
    have saved : r.Saved (record.writtenAt later) y z := same later ▸ saved
    have there := saved.holds
    refine ⟨.of_saved footprint.apart saved named (.restored holds allowed), ?_⟩
    refine .undone holds belong member (marked.faults ▸ failing) (fun i isData => ?_) (named ▸ there)
    exact (saved.at isData ⟨rfl, rfl⟩).contents.trans (cleared.removed marked isData)
  · intro _ y cleared blocked
    have writable := marked.writable
    rw [Memory.isBlocked, ← cleared.records footprint.apart data, ← Memory.isBlocked] at writable
    cases writable.symm.trans blocked

private theorem along_discard {m₁ : Memory} (footprint : r.Footprint allows name may m)
    (holds : r.records.Holds m name record) (belong : r.Belong allows record indices)
    (data : ∀ i ∈ indices, r.IsData i) (marked : r.Marked name m m₁)
    (working : ∀ i ∈ indices, i ∉ m₁.faults.failingDeletion)
    (cleared : r.Cleared indices m₁ x.1.store) :
    Along (r.held allows) (r.held allows).renewals (r.Runs name may (r.Erases allows name m))
      (Settles (fun a y => r.Deleted allows name m y.1.store (.ok a))
        fun e y => r.Deleted allows name m y.1.store (.error e)) (r.records.delete name) x := by
  intro y renewals a z answered
  have cleared := (Cleared.ignores indices m₁).renewals renewals cleared
  have apart := footprint.apart
  refine ⟨.of_removed apart .removed answered, ?_⟩
  obtain ⟨⟨store, answer, same⟩, -⟩ := answered
  have present : y.1.store.document? r.records.index name ≠ none := by
    rw [Memory.document?, cleared.records apart data]
    exact Option.isSome_iff_ne_none.mp (Option.isSome_iff_exists.mpr marked.present)
  rcases Memory.changed_cases answer with ⟨rfl, deleted⟩ | ⟨e, rfl, refused, -⟩
  · have documents := Memory.document?_deleteDocument deleted
    have change := Memory.change_answer y.1.store (.deleteDocument r.records.index name none)
    rw [answer] at change
    refine .done holds belong (marked.faults ▸ working) (fun i isData => ?_) ?_ <;> rw [same]
    · refine (change.find?_of_ne isData.2).trans ((cleared.removed marked isData).trans ?_)
      by_cases member : i ∈ indices
      · simp [member, marked.faults ▸ working i member]
      · simp [member]
    · exact (documents r.records.index name).trans (if_pos ⟨rfl, rfl⟩)
  · exact absurd refused (Memory.deleteDocument_ne_error present)

theorem along_indicesOf {own : Moment × Lease → Moment × Lease → Prop} (still : ∀ y, own y y)
    (agrees : r.Agrees m x.1.store) :
    Along (r.held allows) (r.held allows).renewals own
      (Settles (fun indices y => r.Agrees m y.1.store ∧ r.Belong allows record indices)
        fun _ _ => False) (r.indicesOf record) x := by
  refine along_ask_while (fun y => r.Agrees m y.1.store)
    (fun _ _ renewals => (Agrees.ignores m).renewals renewals) agrees still nofun nofun
    fun answer y allowed agrees => ?_
  match answer with
  | .error e =>
    exact ⟨agrees, fun _ => id, fun _ => .inl, _, allowed, fun _ same => by cases same⟩
  | .ok found =>
    refine ⟨agrees, fun i member => List.mem_append_left _ member, fun i member => ?_, _, allowed, ?_⟩
    · rcases List.mem_append.mp member with recorded | named
      · exact .inl recorded
      · exact .inr ⟨found, allowed, (List.mem_filter.mp named).1⟩
    · intro found same i named
      obtain rfl := Except.ok.inj same
      by_cases recorded : i ∈ record.indices
      · exact List.mem_append_left _ recorded
      · exact List.mem_append_right _ (List.mem_filter.mpr ⟨named, by simpa using recorded⟩)

theorem along_deleteHeld (footprint : r.Footprint allows name may m)
    (agrees : r.Agrees m x.1.store) :
    Along (r.held allows) (r.held allows).renewals (r.Runs name may (r.Erases allows name m))
      (Settles (fun a y => r.Deleted allows name m y.1.store (.ok a))
        fun e y => r.Deleted allows name m y.1.store (.error e)) (r.deleteHeld name) x := by
  refine (along_requireRecord footprint.apart agrees).next
    (fun e y ⟨same, unknown⟩ => .unknown unknown same) fun record y ⟨agrees, holds⟩ => ?_
  obtain rfl := footprint.named record holds
  show Along _ _ _ _ ((r.records.update { record with state := .deleting }).bind _) y
  refine along_bind_iff.mpr (along_bind_iff.mpr (along_save_while
    (fun y => r.Agrees m y.1.store) (fun _ _ renewals => (Agrees.ignores m).renewals renewals) agrees
    .refl ?_ ?_))
  · intro now y z agrees allowed saved
    have marked : r.Marked record.name m z.1.store := marked_of_saved saved agrees rfl
    refine ⟨.of_saved footprint.apart saved rfl (.marked holds allowed), ?_⟩
    refine (along_indicesOf .refl (.refl z.1.store)).next (fun _ _ => False.elim)
      fun indices w ⟨agrees, belong⟩ => ?_
    have belong : r.Belong allows record indices := ⟨belong.recorded, belong.known, belong.named⟩
    have data : ∀ i ∈ indices, r.IsData i ∧ may i := fun i member =>
      (belong.known i member).elim (footprint.listed record holds i)
        fun ⟨found, answer, named⟩ => footprint.names found answer i named
    have removes : ∀ i ∈ indices, ∀ a w v, r.held allows (.store (.deleteIndex i)) w a v →
        r.Runs record.name may (r.Erases allows record.name m) w v := by
      intro i member a w v answered
      have touches : (Request.store (.deleteIndex i)).Touches i := Request.touches_of_index rfl
      exact .of_touches footprint.apart touches (data i member).1 (data i member).2 answered
    have data : ∀ i ∈ indices, r.IsData i := fun i member => (data i member).1
    refine (along_deleteIndices .refl removes agrees).attempted (fun _ w ended => ?_) fun e w ended => ?_
    · exact along_discard footprint holds belong data marked ended.2 ended.1
    · obtain ⟨cleared, index, member, failing, rfl⟩ := ended
      show Along _ _ _ _ ((r.saveQuietly _).bind _) w
      exact along_restore footprint holds belong data marked member failing (fun _ => rfl) cleared
  · intro _ y agrees blocked
    refine .unmarked ?_ agrees
    rw [Memory.isBlocked, ← agrees.others _ footprint.apart.symm, ← Memory.isBlocked]
    exact blocked

/-- How a deletion has ended is not changed by what becomes of its lease. -/
private theorem Deleted.ignores (apart : r.leases.index ≠ r.records.index)
    (result : Except Error Unit) :
    r.leases.Ignores fun m' => r.Deleted allows name m m' result := by
  intro m₁ m₂ faults same deleted
  have records := same r.records.index apart.symm
  cases deleted with
  | unknown unknown agrees => exact .unknown unknown (Agrees.ignores m _ _ faults same agrees)
  | unmarked blocked agrees => exact .unmarked blocked (Agrees.ignores m _ _ faults same agrees)
  | undone holds belong member failing removed restored =>
    exact .undone holds belong member failing
      (fun i data => (same i data.1).trans (removed i data)) (restored.congr records)
  | done holds belong working removed gone =>
    refine .done holds belong working (fun i data => (same i data.1).trans (removed i data)) ?_
    rw [Memory.document?, records]
    exact gone

theorem along_deleteJob (footprint : r.Footprint allows name may m) :
    Along (Moment.surroundings allows) Eq (r.Confined name may (r.Erases allows name m))
      (fun result y => r.Operated allows name m (fun result m' => r.Deleted allows name m m' result)
        (fun _ => False) result y.store) (r.deleteJob name) (.start m) := by
  refine along_underLease footprint.apart (fun _ _ => rfl) (Deleted.ignores footprint.apart)
    fun y _ changes => ?_
  refine (along_deleteHeld footprint (.of_changesOnly changes)).weaken fun result z ended => ?_
  match result with
  | .ok _ => exact ended
  | .error (.error _) => exact ended

/-- A deletion has been stopped by an index that cannot be removed. -/
def StoppedByIndex (e : Error) : Prop :=
  ∃ index : String, e = .store (.backend s!"injected delete failure for {index}")

private theorem not_stopped_of_take {reason : String} (length : Nat)
    (short : length ≤ "injected delete failure for ".toList.length)
    (other : reason.toList.take length ≠ "injected delete failure for ".toList.take length) :
    ¬StoppedByIndex (.store (.backend reason)) := by
  rintro ⟨index, same⟩
  obtain rfl := Store.Error.backend.inj (Error.store.inj same)
  refine other ?_
  rw [String.toList_append]
  exact List.take_append_of_le_length short

private theorem not_stopped_of_blocked (index : String) :
    ¬StoppedByIndex (.store (Memory.blocked index)) := by
  refine not_stopped_of_take 3 (by decide) ?_
  rw [String.toList_append, String.toList_append, List.append_assoc,
    List.take_append_of_le_length (by decide)]
  decide

private theorem not_stopped_of_creation (index : String) :
    ¬StoppedByIndex (.store (.backend s!"injected create failure for {index}")) := by
  refine not_stopped_of_take 10 (by decide) ?_
  rw [String.toList_append, List.take_append_of_le_length (by decide)]
  decide

private theorem Barred.not_stopped {e : Error} (barred : r.Barred name m (.error e)) :
    ¬StoppedByIndex e := by
  cases barred with
  | held => exact nofun
  | refused refusal =>
    cases refusal with
    | creation => exact not_stopped_of_creation _
    | blocked => exact not_stopped_of_blocked _
    | unreadable => exact nofun

private theorem holds_writtenAt (holds : r.records.Holds m name record)
    (same : m'.indices.find? r.records.index = m.indices.find? r.records.index) :
    ∃ now, r.records.Holds m' name (record.writtenAt now) :=
  ⟨record.lastUpdateTime, holds.congr same⟩

/-- A deletion that fails leaves the record of its job as it was, but for the time of its writing.
What the record serves is still there if the deletion has failed before an index stopped it, or if
that very index is one that cannot be removed, and otherwise it is gone. -/
theorem failed_deletion_keeps_served_iff {config : Config.EngineConfig} {service : Nat}
    {old : String} {contents : MemoryIndex} {e : Error} {y : Moment}
    (created : Runner.create config service = .ok r) (default : config.store = {})
    (holds : r.records.Holds m name record) (named : record.name = name)
    (current : record.currentIndex = some old) (present : m.indices.find? old = some contents)
    (listed : ∀ i ∈ record.indices, r.IsData i)
    (ended : Ends (Moment.surroundings allows) (r.deleteJob name) (.start m) (.error (.error e)) y) :
    (∃ now, r.records.Holds y.store name (record.writtenAt now)) ∧
      (y.store.indices.find? old = some contents ↔
        ¬StoppedByIndex e ∨ old ∈ m.faults.failingDeletion) := by
  have apart := apart_of_create created
  have member := List.mem_of_getLast? current
  have footprint : r.Footprint allows name (fun _ => True) m := by
    refine ⟨apart, fun record' holds' => ?_, fun record' holds' => ?_,
      fun found _ i there => ⟨isData_of_default created default there, trivial⟩⟩
    · obtain rfl := holds.unique holds'
      exact named
    · obtain rfl := holds.unique holds'
      exact fun i there => ⟨listed i there, trivial⟩
  have kept (same : ∀ i, i ≠ r.leases.index → y.store.indices.find? i = m.indices.find? i)
      (other : ¬StoppedByIndex e) :
      (∃ now, r.records.Holds y.store name (record.writtenAt now)) ∧
        (y.store.indices.find? old = some contents ↔
          ¬StoppedByIndex e ∨ old ∈ m.faults.failingDeletion) :=
    ⟨holds_writtenAt holds (same _ apart.symm),
      fun _ => .inl other, fun _ => (same old (listed old member).1).trans present⟩
  rcases (along_deleteJob footprint).ended ended with ⟨deleted, -⟩ | ⟨untouched, barred⟩
  · cases deleted with
    | unknown unknown same =>
      cases unknown with
      | absent missing =>
        obtain ⟨stored, there, -⟩ := holds
        cases missing.symm.trans there
      | unreadable none => exact absurd holds (none record)
    | unmarked blocked same => exact kept same.others (not_stopped_of_blocked _)
    | @undone _ _ index _ holds' belong _ _ removed restored =>
      obtain rfl := holds.unique holds'
      have stopped : StoppedByIndex
          (.store (.backend s!"injected delete failure for {index}")) := ⟨index, rfl⟩
      refine ⟨⟨_, restored⟩, ?_⟩
      rw [removed old (listed old member)]
      by_cases failing : old ∈ m.faults.failingDeletion <;>
        simp [belong.recorded old member, failing, present, stopped]
  · exact kept untouched.others barred.not_stopped

section

open Example

/-- A job whose last generation has replaced one that could not be removed. -/
private def retained : Job.Record := { available with indices := ["job-1", "job-2"] }

/-- A store with the job, both of its generations, and a fault that keeps the first one. -/
private def keepsFirst : Memory :=
  ((served.write "job-2" "y" (.string "new")).write ".threatintel-jobs" "job"
    retained.toJson).failIndexDeletion "job-1"

private def stopped : Error := .store (.backend "injected delete failure for job-1")

private def deletionEnd : Moment :=
  ((runner.deleteJob "job").run (Moment.answeredBy answer) (.start keepsFirst)).2

private theorem ends_deletion :
    Ends (Moment.surroundings (answers feed reply)) (runner.deleteJob "job") (.start keepsFirst)
      (.error (.error stopped)) deletionEnd :=
  Moment.ends_answeredBy_error answer_allowed _ (.start keepsFirst) (by decide +kernel)

private theorem holds_retained : runner.records.Holds keepsFirst "job" retained :=
  ⟨_, by rfl, Job.Record.fromJson?_toJson retained⟩

/-- The first generation stops the deletion. The record is as it was before, and the generation that
it serves is gone. -/
theorem failed_deletion_loses_served :
    (∃ now, runner.records.Holds deletionEnd.store "job" (retained.writtenAt now)) ∧
      deletionEnd.store.indices.find? "job-2" = none := by
  have created : Runner.create {} 0 = .ok runner := by rfl
  have present : (keepsFirst.indices.find? "job-2").isSome = true := by decide +kernel
  have gone : (deletionEnd.store.indices.find? "job-2").isNone = true := by decide +kernel
  have listed : ∀ i ∈ retained.indices, runner.IsData i := by
    unfold Runner.IsData
    decide +kernel
  obtain ⟨contents, present⟩ := Option.isSome_iff_exists.mp present
  obtain ⟨kept, -⟩ := failed_deletion_keeps_served_iff created rfl holds_retained rfl rfl present
    listed ends_deletion
  exact ⟨kept, Option.isNone_iff_eq_none.mp gone⟩

/-- A deletion may fail and leave a record behind that serves an index that it has removed. -/
theorem deletion_fails_unsafely :
    runner.records.Holds keepsFirst "job" retained ∧ retained.currentIndex = some "job-2" ∧
      keepsFirst.indices.find? "job-2" ≠ none ∧
        Ends (Moment.surroundings (answers feed reply)) (runner.deleteJob "job") (.start keepsFirst)
          (.error (.error (.store (.backend "injected delete failure for job-1")))) deletionEnd ∧
        (∃ record, runner.records.Holds deletionEnd.store "job" record ∧
          record.state = .available ∧ record.currentIndex = some "job-2") ∧
        deletionEnd.store.indices.find? "job-2" = none := by
  have present : (keepsFirst.indices.find? "job-2").isSome = true := by decide +kernel
  have left : ((deletionEnd.store.document? ".threatintel-jobs" "job").bind fun stored =>
      (Job.Record.fromJson? (.ofValue stored.source)).map fun record =>
        (record.state, record.currentIndex)) = some (.available, some "job-2") ∧
      (deletionEnd.store.indices.find? "job-2").isNone = true := by decide +kernel
  obtain ⟨kept, gone⟩ := left
  obtain ⟨stored, there, kept⟩ := Option.bind_eq_some_iff.mp kept
  obtain ⟨record, decoded, kept⟩ := Option.map_eq_some_iff.mp kept
  obtain ⟨state, current⟩ := Prod.mk.inj kept
  refine ⟨holds_retained, rfl, Option.isSome_iff_ne_none.mp present, ends_deletion,
    ⟨record, ⟨stored, there, decoded⟩, state, current⟩, Option.isNone_iff_eq_none.mp gone⟩

end

end IndicatorFeeds.Runner

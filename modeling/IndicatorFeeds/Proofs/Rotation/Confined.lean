import IndicatorFeeds.Proofs.Lease.Taken
import IndicatorFeeds.Proofs.Rotation.Saved

namespace IndicatorFeeds.Runner

open Store (Memory MemoryIndex Call)
open Program Rotation

variable {r : Runner} {allows : (r : Request) → r.Answer → Prop} {name index : String}
  {may : String → Prop} {writes : Option Job.Record → Prop} {record : Job.Record}

/-- What is stored as the record of a job is as it was, or it is what may be written: a record, or
none. -/
inductive Recorded (r : Runner) (name : String) (writes : Option Job.Record → Prop) (m m' : Memory) :
    Prop where
  | kept (same : m'.document? r.records.index name = m.document? r.records.index name)
  | removed (allowed : writes none) (gone : m'.document? r.records.index name = none)
  | written {record : Job.Record} (allowed : writes (some record))
      (stored : r.records.Holds m' name record)

namespace Recorded

variable {m m' m'' : Memory}

theorem trans (first : r.Recorded name writes m m') (second : r.Recorded name writes m' m'') :
    r.Recorded name writes m m'' := by
  cases second with
  | removed allowed gone => exact .removed allowed gone
  | written allowed stored => exact .written allowed stored
  | kept same =>
    cases first with
    | kept same' => exact .kept (same.trans same')
    | removed allowed gone => exact .removed allowed (same.trans gone)
    | written allowed stored => exact .written allowed (stored.of_document? same.symm)

theorem mono {writes' : Option Job.Record → Prop} (recorded : r.Recorded name writes m m')
    (more : ∀ record, writes record → writes' record) : r.Recorded name writes' m m' := by
  cases recorded with
  | kept same => exact .kept same
  | removed allowed gone => exact .removed (more _ allowed) gone
  | written allowed stored => exact .written (more _ allowed) stored

theorem of_find? (same : m'.indices.find? r.records.index = m.indices.find? r.records.index) :
    r.Recorded name writes m m' :=
  .kept (by rw [Memory.document?, Memory.document?, same])

end Recorded

/-- Between two moments nothing has changed but indices that may, and the record and the lease of a
job. -/
structure Confined (r : Runner) (name : String) (may : String → Prop)
    (writes : Option Job.Record → Prop) (x y : Moment) : Prop where
  faults : y.store.faults = x.store.faults
  data : ∀ i, r.IsData i → ¬may i → y.store.indices.find? i = x.store.indices.find? i
  documents : ∀ i id, ¬r.IsData i → id ≠ name → y.store.document? i id = x.store.document? i id
  blocked : ∀ i, ¬r.IsData i → y.store.isBlocked i = x.store.isBlocked i
  flags : ∀ i, ¬r.IsData i → ∀ flags, x.store.flags? i = some flags → y.store.flags? i = some flags
  recorded : r.Recorded name writes x.store y.store

namespace Confined

variable {x y z : Moment}

theorem refl (x : Moment) : r.Confined name may writes x x :=
  ⟨rfl, fun _ _ _ => rfl, fun _ _ _ _ => rfl, fun _ _ => rfl, fun _ _ _ there => there, .kept rfl⟩

theorem trans (first : r.Confined name may writes x y) (second : r.Confined name may writes y z) :
    r.Confined name may writes x z where
  faults := second.faults.trans first.faults
  data := fun i data other => (second.data i data other).trans (first.data i data other)
  documents := fun i id system other =>
    (second.documents i id system other).trans (first.documents i id system other)
  blocked := fun i system => (second.blocked i system).trans (first.blocked i system)
  flags := fun i system flags there =>
    second.flags i system flags (first.flags i system flags there)
  recorded := first.recorded.trans second.recorded

theorem mono {may' : String → Prop} {writes' : Option Job.Record → Prop}
    (confined : r.Confined name may writes x y) (more : ∀ i, may i → may' i)
    (written : ∀ record, writes record → writes' record) : r.Confined name may' writes' x y :=
  { confined with
    data := fun i data spared => confined.data i data (spared ∘ more i)
    recorded := confined.recorded.mono written }

theorem of_moves (moves : Relation.ReflTransGen (r.Confined name may writes) x y) :
    r.Confined name may writes x y := by
  induction moves with
  | refl => exact .refl x
  | tail _ move ih => exact ih.trans move

theorem present (confined : r.Confined name may writes x y) (system : ¬r.IsData index)
    (there : x.store.indices.contains index = true) : y.store.indices.contains index = true := by
  obtain ⟨found, present⟩ := Option.isSome_iff_exists.mp there
  have kept := confined.flags index system _ (congrArg (Option.map _) present)
  unfold Store.Table.contains
  exact Option.isSome_map ▸ Option.isSome_of_eq_some kept

theorem of_documentChange (change : x.store.DocumentChange index name y.store)
    (system : ¬r.IsData index) (recorded : r.Recorded name writes x.store y.store) :
    r.Confined name may writes x y where
  faults := change.faults
  data := fun i data _ => change.indices i fun same => system (same ▸ data)
  documents := by
    intro i id _ other
    by_cases same : i = index
    · subst same
      exact change.documents id other
    · rw [Memory.document?, Memory.document?, change.indices i same]
  blocked := by
    intro i _
    by_cases same : i = index
    · subst same
      exact change.blocked
    · rw [Memory.isBlocked, Memory.isBlocked, change.indices i same]
  flags := by
    intro i _
    by_cases same : i = index
    · subst same
      exact change.flags
    · rw [Memory.flags?, Memory.flags?, change.indices i same]
      exact fun _ there => there
  recorded := recorded

theorem of_changesOnly (apart : r.leases.index ≠ r.records.index)
    (changes : r.leases.ChangesOnly name x y) : r.Confined name may writes x y :=
  of_documentChange changes.toDocumentChange (fun data => data.1 rfl)
    (.of_find? (changes.indices _ apart.symm))

theorem of_saved {x y : Moment × Lease} (saved : r.Saved record x y) (named : record.name = name)
    (allowed : writes (some record)) : r.Confined name may writes x.1 y.1 := by
  have there := saved.holds
  obtain ⟨-, rfl⟩ := saved
  subst named
  exact of_documentChange (Memory.documentChange_write _ _ _ _) (fun data => data.2 rfl)
    (.written allowed there)

theorem of_touches {request : Request} {a : request.Answer} (touches : request.Touches index)
    (data : r.IsData index) (allowed : may index)
    (answered : Moment.surroundings allows request x a y) : r.Confined name may writes x y := by
  have others (i : String) (other : i ≠ index) :
      y.store.indices.find? i = x.store.indices.find? i :=
    Moment.find?_of_spares (touches i other) answered
  have system {i : String} (system : ¬r.IsData i) : i ≠ index := fun same => system (same ▸ data)
  refine ⟨Moment.faults_eq answered, fun i _ spared => ?_, fun i id own _ => ?_, fun i own => ?_,
    fun i own => ?_, .of_find? (others _ (system fun data => data.2 rfl))⟩
  · exact others i fun same => spared (same ▸ allowed)
  · rw [Memory.document?, Memory.document?, others i (system own)]
  · rw [Memory.isBlocked, Memory.isBlocked, others i (system own)]
  · rw [Memory.flags?, Memory.flags?, others i (system own)]
    exact fun _ there => there

theorem of_createIndex {spec : Store.IndexSpec}
    (made : x.store.createIndex index spec = .ok y.store) (system : ¬r.IsData index) :
    r.Confined name may writes x y := by
  obtain ⟨-, missing, made⟩ := Memory.createIndex_eq_ok_iff.mp made
  refine of_documentChange ?_ system (.kept ?_) <;> rw [made]
  · exact Memory.documentChange_create missing _ _
  · exact Memory.document?_create missing _ _ _

end Confined

/-- A move of a run that holds the lease of a job: it is confined to the job, and the lease stays
the stored one. -/
def Runs (r : Runner) (name : String) (may : String → Prop) (writes : Option Job.Record → Prop)
    (x y : Moment × Lease) : Prop :=
  x.2.resource = name → r.Confined name may writes x.1 y.1 ∧ y.2.resource = name ∧
    (r.leases.Holds x → r.leases.Holds y)

namespace Runs

variable {x y : Moment × Lease}

theorem refl (x : Moment × Lease) : r.Runs name may writes x x := fun owned => ⟨.refl _, owned, id⟩

theorem of_renewed (apart : r.leases.index ≠ r.records.index) (renewed : r.leases.Renewed x y) :
    r.Runs name may writes x y := by
  rintro rfl
  exact ⟨.of_changesOnly apart renewed.changesOnly, renewed.resource_eq, renewed.holds⟩

theorem of_saved (apart : r.leases.index ≠ r.records.index) (saved : r.Saved record x y)
    (named : record.name = name) (allowed : writes (some record)) : r.Runs name may writes x y := by
  intro owned
  have kept : y.1.store.indices.find? r.leases.index = x.1.store.indices.find? r.leases.index := by
    rw [saved.2]
    exact Memory.find?_write_of_ne _ apart
  have lease : y.2 = x.2 := by rw [saved.2]
  exact ⟨.of_saved saved named allowed, lease ▸ owned, fun holds => holds.congr lease kept⟩

theorem of_touches {request : Request} {a : request.Answer} (apart : r.leases.index ≠ r.records.index)
    (touches : request.Touches index) (data : r.IsData index) (allowed : may index)
    (answered : r.held allows request x a y) : r.Runs name may writes x y := by
  by_cases renews : request = .renewLease
  · subst renews
    exact of_renewed apart answered
  · obtain ⟨answered, lease⟩ := (Surroundings.held_of_ne renews).mp answered
    have kept := Moment.find?_of_spares (touches _ data.1.symm) answered
    exact fun owned => ⟨.of_touches touches data allowed answered, lease ▸ owned,
      fun holds => holds.congr lease kept⟩

theorem of_removed {a : Except Store.Error Unit} (apart : r.leases.index ≠ r.records.index)
    (allowed : writes none)
    (answered : r.held allows (.store (.deleteDocument r.records.index name none)) x a y) :
    r.Runs name may writes x y := by
  have spares : (Request.store (.deleteDocument r.records.index name none)).Spares r.leases.index :=
    Request.spares_of_ne apart.symm
  have kept := Moment.find?_of_spares spares answered.1
  have lease := answered.2
  refine fun owned => ⟨?_, lease ▸ owned, fun holds => holds.congr lease kept⟩
  obtain ⟨⟨store, answer, same⟩, -⟩ := answered
  rcases Memory.changed_cases answer with ⟨rfl, deleted⟩ | ⟨e, rfl, -, rfl⟩
  · rw [same]
    refine .of_documentChange (Memory.documentChange_delete deleted) (fun data => data.2 rfl)
      (.removed allowed ?_)
    exact (Memory.document?_deleteDocument deleted _ _).trans (if_pos ⟨rfl, rfl⟩)
  · have unchanged : y.1 = x.1 := same.trans (Moment.after_error _ _ _)
    rw [unchanged]
    exact .refl _

end Runs

end IndicatorFeeds.Runner

import IndicatorFeeds.Proofs.Documents
import IndicatorFeeds.Proofs.Rotation.Leased

namespace IndicatorFeeds

open Store (Memory MemoryIndex Call)
open Program

namespace LeaseService

variable {s : LeaseService} {resource : String} {x y z : Moment} {lease : Lease}
  {allows : (r : Request) → r.Answer → Prop}

/-- Between two moments no more has changed than the lease of a resource. -/
structure ChangesOnly (s : LeaseService) (resource : String) (x y : Moment) : Prop extends
    x.store.DocumentChange s.index resource y.store where
  written : ∀ i, i ≠ s.index → y.written i = x.written i

theorem ChangesOnly.refl (x : Moment) : s.ChangesOnly resource x x :=
  ⟨.refl _ _ _, fun _ _ => rfl⟩

theorem ChangesOnly.trans (first : s.ChangesOnly resource x y)
    (second : s.ChangesOnly resource y z) : s.ChangesOnly resource x z :=
  ⟨first.toDocumentChange.trans second.toDocumentChange,
    fun i other => (second.written i other).trans (first.written i other)⟩

private theorem changesOnly_of_call {c : Call} {m : Memory} (a : c.Answer) (about : c.index = s.index)
    (change : x.store.DocumentChange s.index resource m) :
    s.ChangesOnly resource x (x.after c a m) := by
  refine ⟨change, fun i other => ?_⟩
  have spares : (Request.store c).Spares i := .inr (about ▸ other.symm)
  exact (congrArg (x.written i ++ ·) (Moment.additions_of_spares spares a)).trans
    (List.append_nil _)

/-- The lease is the one that is stored. -/
def Holds (s : LeaseService) (x : Moment × Lease) : Prop :=
  (x.1.store.document? s.index x.2.resource).map (·.version) = some x.2.version

theorem Holds.congr {x y : Moment × Lease} (holds : s.Holds x) (same : y.2 = x.2)
    (kept : y.1.store.indices.find? s.index = x.1.store.indices.find? s.index) : s.Holds y := by
  unfold Holds Memory.document? at holds ⊢
  rw [same, kept]
  exact holds

/-- A renewal rewrites its own lease at most, and its holder knows the new version. -/
theorem Renewed.changesOnly {x y : Moment × Lease} (renewed : s.Renewed x y) :
    s.ChangesOnly x.2.resource x.1 y.1 := by
  rcases renewed with rfl | ⟨source, -, store, written, -, -⟩
  · exact .refl _
  · refine ⟨?_, written⟩
    rw [store]
    exact Memory.documentChange_write _ _ _ _

theorem Renewed.holds {x y : Moment × Lease} (renewed : s.Renewed x y) (holds : s.Holds x) :
    s.Holds y := by
  rcases renewed with rfl | ⟨source, -, store, -, same, version⟩
  · exact holds
  · unfold Holds
    rw [store, same, version, Memory.document?_write_self]
    rfl

/-- Why a lease cannot be taken from a store: its index cannot be made, or takes no writes, or what
is stored as the lease is none. -/
inductive Refusal (s : LeaseService) (resource : String) (m : Memory) : Error → Prop where
  | creation (failing : s.index ∈ m.faults.failingCreation) :
      Refusal s resource m (.store (.backend s!"injected create failure for {s.index}"))
  | blocked (closed : m.isBlocked s.index = true) :
      Refusal s resource m (.store (Memory.blocked s.index))
  | unreadable (there : m.document? s.index resource ≠ none) :
      Refusal s resource m .serialization

/-- The lease of a resource may be taken at a time: none is stored, or one that is over. -/
def Free (s : LeaseService) (resource : String) (now : Reading) (m : Memory) : Prop :=
  ∀ stored, m.document? s.index resource = some stored →
    ∃ document, LeaseDocument.fromJson? (.ofValue stored.source) = some document ∧
      document.isLive now = .ok false

theorem Free.congr {m m' : Memory} {now : Reading} (free : s.Free resource now m)
    (same : m'.document? s.index resource = m.document? s.index resource) :
    s.Free resource now m' :=
  fun stored there => free stored (same.symm.trans there)

/-- How the taking of a lease ends: only if it is taken, what is stored as the lease changes. -/
def Took (s : LeaseService) (allows : (r : Request) → r.Answer → Prop) (resource : String)
    (x : Moment) : Except Failure (Option Lease) → Moment → Prop
  | .ok (some lease), y => s.Holds (y, lease) ∧ lease.resource = resource ∧
    allows .now lease.takenAt ∧ s.Free resource lease.takenAt x.store ∧
      lease.version.seqNo ≤ y.store.lastSeqNo
  | .ok none, y => y.store.document? s.index resource = x.store.document? s.index resource ∧
    x.store.document? s.index resource ≠ none
  | .error (.error e), y => y.store.document? s.index resource = x.store.document? s.index resource ∧
    s.Refusal resource x.store e
  | .error (.fault _), y => y.store.document? s.index resource = x.store.document? s.index resource ∧
    x.store.document? s.index resource ≠ none

theorem along_ensureIndex (s : LeaseService) (resource : String) (x : Moment) :
    Along (Moment.surroundings allows) Eq (s.ChangesOnly resource) (fun result y =>
      y.store.document? s.index resource = x.store.document? s.index resource ∧
        match result with
        | .ok () => True
        | .error (.error e) => s.index ∈ x.store.faults.failingCreation ∧
          e = .store (.backend s!"injected create failure for {s.index}")
        | .error (.fault _) => False) s.ensureIndex x := by
  rintro _ rfl (ready : Bool) y ⟨-, rfl⟩
  refine ⟨.refl _, ?_⟩
  cases ready with
  | true => exact ⟨rfl, trivial⟩
  | false =>
  rintro _ rfl a z ⟨store, answer, same⟩
  rcases Memory.changed_cases answer with ⟨rfl, created⟩ | ⟨e, rfl, refused, rfl⟩
  · obtain ⟨-, missing, rfl⟩ := Memory.createIndex_eq_ok_iff.mp created
    subst same
    refine ⟨changesOnly_of_call _ rfl (Memory.documentChange_create missing _ _), ?_⟩
    rintro _ rfl _ z ⟨-, rfl⟩
    exact ⟨.refl _, Memory.document?_create missing _ _ _, trivial⟩
  · obtain rfl : z = y := same.trans (y.after_error _ e)
    refine ⟨.refl _, ?_⟩
    rcases Memory.createIndex_eq_error_iff.mp refused with ⟨failing, rfl⟩ | ⟨-, -, rfl⟩
    · exact ⟨rfl, failing, rfl⟩
    · rintro _ rfl _ z ⟨-, rfl⟩
      exact ⟨.refl _, rfl, trivial⟩

private theorem put_accepted {source : Json.Value} {choice : Store.WriteCondition}
    {a : Except Store.Error Store.Version}
    (accepted : Memory.refusal? s.index resource
      ((y.store.document? s.index resource).map (·.version)) choice = none)
    (answered : Moment.surroundings allows (.store (.putDocument s.index resource source choice))
      y a z) :
    s.ChangesOnly resource y z ∧
      ((∃ version, a = .ok version ∧ version.seqNo ≤ z.store.lastSeqNo ∧
        (z.store.document? s.index resource).map (·.version) = some version) ∨
        z = y ∧ y.store.isBlocked s.index = true ∧ a = .error (Memory.blocked s.index)) := by
  obtain ⟨store, answer, same⟩ := answered
  rcases Memory.putDocument_cases answer with ⟨version, rfl, written⟩ | ⟨e, rfl, refused, rfl⟩
  · obtain ⟨-, -, rfl, rfl⟩ := Memory.putDocument_eq_ok_iff.mp written
    subst same
    refine ⟨changesOnly_of_call _ rfl (Memory.documentChange_write _ _ _ _),
      .inl ⟨_, rfl, Nat.le_refl _, ?_⟩⟩
    exact congrArg (Option.map (·.version)) (Memory.document?_write_self _ _ _ _)
  · obtain rfl : z = y := same.trans (Moment.after_error _ _ e)
    refine ⟨.refl _, .inr ⟨rfl, ?_⟩⟩
    rcases Memory.putDocument_eq_error_iff.mp refused with refusal | ⟨-, closed, rfl⟩
    · cases accepted.symm.trans refusal
    · exact ⟨closed, rfl⟩

theorem condition_accepted (m : Memory) (resource : String) (now : Reading) :
    (∃ choice, condition now (m.getDocument s.index resource) = .done (some choice) ∧
      Memory.refusal? s.index resource ((m.document? s.index resource).map (·.version)) choice =
        none ∧ s.Free resource now m) ∨
      m.document? s.index resource ≠ none ∧
        (condition now (m.getDocument s.index resource) = .done none ∨
          condition now (m.getDocument s.index resource) = .fail (.error .serialization) ∨
            ∃ f, condition now (m.getDocument s.index resource) = .fail (.fault f)) := by
  unfold Memory.getDocument
  cases there : m.document? s.index resource with
  | none => exact .inl ⟨.create, rfl, rfl, fun stored there' => by cases there.symm.trans there'⟩
  | some stored =>
    simp only [Option.map_some, condition]
    cases decoded : LeaseDocument.fromJson? (.ofValue stored.source) with
    | none => exact .inr ⟨Option.some_ne_none _, .inr (.inl rfl)⟩
    | some document =>
      cases live : document.isLive now with
      | error f => exact .inr ⟨Option.some_ne_none _, .inr (.inr ⟨f, by simp [live]; rfl⟩)⟩
      | ok kept =>
        cases kept with
        | true => exact .inr ⟨Option.some_ne_none _, .inl (by simp [live]; rfl)⟩
        | false =>
          refine .inl ⟨.ifVersion stored.version, by simp [live]; rfl, by simp [Memory.refusal?],
            fun stored' there' => ?_⟩
          obtain rfl := Option.some.inj (there.symm.trans there')
          exact ⟨document, decoded, live⟩

/-- A lease is taken, or what is stored as the lease stays as it is. -/
theorem along_acquire_took (s : LeaseService) (resource : String) (durationSecs : UInt64)
    (x : Moment) :
    Along (Moment.surroundings allows) Eq (s.ChangesOnly resource) (s.Took allows resource x)
      (s.acquire resource durationSecs) x := by
  refine along_bind_iff.mpr (((along_ensureIndex s resource x).moved (fun x => .refl x)
    fun _ _ _ => ChangesOnly.trans).weaken fun result y ended => ?_)
  obtain ⟨moved, same, ended⟩ := ended
  match result with
  | .error (.error e) =>
    obtain ⟨failing, rfl⟩ := ended
    exact ⟨same, .creation failing⟩
  | .error (.fault _) => exact ended.elim
  | .ok () =>
  rintro _ rfl (now : Reading) y ⟨allowed, rfl⟩
  refine ⟨.refl _, ?_⟩
  rintro _ rfl a z answered
  obtain ⟨rfl, rfl⟩ := Moment.eq_of_read rfl answered
  refine ⟨.refl _, ?_⟩
  show Along _ _ _ _ ((condition now (z.store.getDocument s.index resource)).bind _) z
  rcases condition_accepted z.store resource now with ⟨choice, chosen, accepted, free⟩ |
    ⟨present, chosen | chosen | ⟨f, chosen⟩⟩ <;> rw [chosen]
  · rintro _ rfl a z' answered
    obtain ⟨moved', written⟩ := put_accepted accepted answered
    refine ⟨moved', ?_⟩
    rcases written with ⟨version, rfl, issued, there⟩ | ⟨rfl, closed, rfl⟩
    · exact ⟨there, rfl, allowed, free.congr same.symm, issued⟩
    · exact ⟨same, .blocked (moved.blocked ▸ closed)⟩
  · exact ⟨same, same ▸ present⟩
  · exact ⟨same, .unreadable (same ▸ present)⟩
  · exact ⟨same, same ▸ present⟩

/-- A lease that is the stored one is gone when it has been given back. -/
theorem along_releaseQuietly_held (s : LeaseService) {lease : Lease} (holds : s.Holds (x, lease)) :
    Along (Moment.surroundings allows) Eq (s.ChangesOnly lease.resource)
      (fun result y => result = .ok () ∧ y.store.document? s.index lease.resource = none)
      (s.releaseQuietly lease) x := by
  refine along_bind_iff.mpr (along_attempt_iff.mpr ?_)
  rintro _ rfl a y ⟨store, answer, rfl⟩
  obtain ⟨stored, there, version⟩ := Option.map_eq_some_iff.mp holds
  obtain ⟨found, present, inside⟩ := Option.bind_eq_some_iff.mp there
  have deleted : x.store.deleteDocument s.index lease.resource (some lease.version) = .ok store := by
    rcases Memory.changed_cases answer with ⟨-, deleted⟩ | ⟨e, -, refused, -⟩
    · exact deleted
    · have possible : x.store.deleteDocument s.index lease.resource (some lease.version) = .ok _ :=
        Memory.deleteDocument_eq_ok_iff.mpr
          ⟨found, stored, present, inside, by simp [version], rfl⟩
      cases refused.symm.trans possible
  refine ⟨changesOnly_of_call _ rfl (Memory.documentChange_delete deleted), ?_⟩
  have absent : store.document? s.index lease.resource = none := by
    simpa using Memory.document?_deleteDocument deleted s.index lease.resource
  match a with
  | .ok () => exact ⟨rfl, absent⟩
  | .error e => cases e <;> exact ⟨rfl, absent⟩

end LeaseService

end IndicatorFeeds

import IndicatorFeeds.Proofs.Lease.Taken
import IndicatorFeeds.Proofs.Program.Told

/-!
Leases that stand. A stored lease that is live at the time that someone else goes by keeps that one
from taking it, and nothing is written then. What is left of a lease that is being worked under is
said here too: its holder renews it or leaves it alone, and leaves all other leases alone.
-/

namespace IndicatorFeeds

open Store (Memory MemoryIndex Call)
open Program

namespace LeaseService

variable {s : LeaseService} {resource : String} {now : Reading} {m : Memory}
  {allows : (r : Request) → r.Answer → Prop}

/-- The stored lease of a resource is live at this time. -/
def Stands (s : LeaseService) (resource : String) (now : Reading) (m : Memory) : Prop :=
  ∃ stored document, m.document? s.index resource = some stored ∧
    LeaseDocument.fromJson? (.ofValue stored.source) = some document ∧ document.isLive now = .ok true

theorem Stands.congr {m' : Memory} (stands : s.Stands resource now m)
    (same : m'.document? s.index resource = m.document? s.index resource) :
    s.Stands resource now m' := by
  obtain ⟨stored, document, there, decoded, live⟩ := stands
  exact ⟨stored, document, same.trans there, decoded, live⟩

theorem condition_eq_none_iff :
    condition now (m.getDocument s.index resource) = .done none ↔ s.Stands resource now m := by
  constructor
  · intro kept
    unfold Memory.getDocument at kept
    cases there : m.document? s.index resource with
    | none =>
      rw [there] at kept
      cases kept
    | some stored =>
      simp only [there, Option.map_some, condition] at kept
      cases decoded : LeaseDocument.fromJson? (.ofValue stored.source) with
      | none =>
        rw [decoded] at kept
        cases kept
      | some document =>
        rw [decoded] at kept
        cases live : document.isLive now with
        | error f =>
          simp only [live] at kept
          cases kept
        | ok kept' =>
          cases kept' with
          | true => exact ⟨stored, document, there, decoded, live⟩
          | false =>
            simp only [live] at kept
            cases kept
  · rintro ⟨stored, document, there, decoded, live⟩
    unfold Memory.getDocument
    rw [there]
    simp only [Option.map_some, condition, decoded, live]
    rfl

/-- A lease is stored as a document. -/
def Stored (s : LeaseService) (lease : Lease) (m : Memory) : Prop :=
  m.document? s.index lease.resource = some ⟨lease.version, lease.document.toJson⟩

/-- How an attempt to take a lease ends. Whoever is told no time has failed before, since the index of
leases could not be made; a lease that is taken is stored with the time that its holder has been told, and
did not stand then; and nothing is written otherwise, whether the lease stands or cannot be had. -/
inductive Tried (s : LeaseService) (resource : String) (durationSecs : UInt64) (x : Moment) :
    Except Failure (Option Lease) → Moment × Option Reading → Prop where
  | untold (failing : s.index ∈ x.store.faults.failingCreation) (idle : y.written = x.written) :
      Tried s resource durationSecs x (.error (.error e)) (y, none)
  | taken {now : Reading} (free : ¬s.Stands resource now x.store)
      (stored : s.Stored ⟨resource, now, durationSecs, version⟩ y.store) :
      Tried s resource durationSecs x (.ok (some ⟨resource, now, durationSecs, version⟩)) (y, some now)
  | away {now : Reading} (stands : s.Stands resource now x.store) (idle : y.written = x.written) :
      Tried s resource durationSecs x (.ok none) (y, some now)
  | failed {now : Reading} (free : ¬s.Stands resource now x.store) (idle : y.written = x.written) :
      Tried s resource durationSecs x (.error f) (y, some now)

private theorem asks_ensureIndex_untold (s : LeaseService) : s.ensureIndex.Asks (· ≠ .now) := by
  refine ⟨nofun, fun ready => ?_⟩
  cases ready with
  | true => trivial
  | false =>
    refine ⟨nofun, fun made => ?_⟩
    have marks : (Program.request (.markLeaseIndexReady s.id)).Asks (· ≠ .now) :=
      ⟨nofun, fun _ => trivial⟩
    match made with
    | .ok () => exact marks
    | .error (.alreadyExists _) => exact marks
    | .error (.indexNotFound _) | .error (.documentNotFound ..) | .error (.versionConflict ..)
    | .error (.transport _) | .error (.backend _) => trivial

private theorem along_ensureIndex_written (s : LeaseService) (x : Moment) :
    Along (Moment.surroundings allows) Eq (fun _ _ => True) (fun _ y => y.written = x.written)
      s.ensureIndex x := by
  rintro _ rfl (ready : Bool) y ⟨-, rfl⟩
  refine ⟨trivial, ?_⟩
  cases ready with
  | true => exact rfl
  | false =>
  rintro _ rfl (made : Except Store.Error Unit) z ⟨store, -, rfl⟩
  have written : (y.after (.createIndex s.index indexSpec) made store).written = y.written :=
    funext fun i => List.append_nil _
  have marks : Along (Moment.surroundings allows) Eq (fun _ _ => True)
      (fun _ w => w.written = y.written) (Program.request (.markLeaseIndexReady s.id))
      (y.after (.createIndex s.index indexSpec) made store) := by
    rintro _ rfl _ w ⟨-, rfl⟩
    exact ⟨trivial, written⟩
  refine ⟨trivial, ?_⟩
  match made with
  | .ok () => exact marks
  | .error (.alreadyExists _) => exact marks
  | .error (.indexNotFound _) | .error (.documentNotFound ..) | .error (.versionConflict ..)
  | .error (.transport _) | .error (.backend _) => exact written

theorem along_acquire_tried (s : LeaseService) (resource : String) (durationSecs : UInt64)
    (x : Moment) :
    Along (Moment.surroundings allows).noting Eq (fun _ _ => True)
      (s.Tried resource durationSecs x) (s.acquire resource durationSecs) (x, none) := by
  have ensures : Along (Moment.surroundings allows) Eq _ _ _ _ := along_ensureIndex s resource x
  have idle : Along (Moment.surroundings allows) Eq _ _ _ _ := along_ensureIndex_written s x
  have untold := (asks_ensureIndex_untold s).untold (Moment.surroundings allows) x
  refine along_bind_iff.mpr ((((ensures.and idle).noting none).and untold).mono
    (fun _ _ same => same) (fun _ _ _ => trivial) fun result y ended => ?_)
  obtain ⟨y, first⟩ := y
  obtain ⟨⟨⟨same, ended⟩, idle⟩, rfl⟩ := ended
  match result with
  | .error (.error e) => exact .untold ended.1 idle
  | .error (.fault _) => exact ended.elim
  | .ok () =>
  rintro _ rfl (now : Reading) ⟨z, first⟩ ⟨⟨-, state⟩, told⟩
  obtain rfl : z = y := state
  obtain rfl : first = some now := told
  refine ⟨trivial, ?_⟩
  rintro _ rfl a ⟨w, first⟩ ⟨answered, told⟩
  obtain rfl : first = some now := told
  obtain ⟨state, rfl⟩ := Moment.eq_of_read rfl answered
  obtain rfl : w = z := state
  have stands : s.Stands resource now w.store ↔ s.Stands resource now x.store :=
    ⟨fun standing => standing.congr same.symm, fun standing => standing.congr same⟩
  have free := condition_eq_none_iff.trans stands
  refine ⟨trivial, ?_⟩
  show Along _ _ _ _ ((condition now (w.store.getDocument s.index resource)).bind _) (w, some now)
  rcases condition_accepted (s := s) w.store resource now with ⟨choice, chosen, accepted, -⟩ |
    ⟨-, chosen | chosen | ⟨f, chosen⟩⟩ <;> rw [chosen] at free ⊢
  · have free : ¬s.Stands resource now x.store := fun standing => by cases free.mpr standing
    rintro _ rfl a ⟨v, first⟩ ⟨⟨store, answer, state⟩, told⟩
    obtain rfl : first = some now := told
    obtain rfl : v = _ := state
    refine ⟨trivial, ?_⟩
    rcases Memory.putDocument_cases answer with ⟨version, rfl, written⟩ | ⟨e, rfl, refused, rfl⟩
    · obtain ⟨-, -, rfl, rfl⟩ := Memory.putDocument_eq_ok_iff.mp written
      exact .taken free (Memory.document?_write_self _ _ _ _)
    · rcases Memory.putDocument_eq_error_iff.mp refused with refusal | ⟨-, -, rfl⟩
      · cases accepted.symm.trans refusal
      · exact .failed free ((congrArg Moment.written (Moment.after_error w _ _)).trans idle)
  · exact .away (free.mp rfl) idle
  · exact .failed (fun standing => by cases free.mpr standing) idle
  · exact .failed (fun standing => by cases free.mpr standing) idle

/-- Whoever is told a time leaves the lease to its holder just if it stands then, and whoever is told
none has failed. -/
theorem Tried.standing {result : Except Failure (Option Lease)} {y : Moment × Option Reading}
    {durationSecs : UInt64} {x : Moment} (tried : s.Tried resource durationSecs x result y) :
    (y.2 = none ∧ s.index ∈ x.store.faults.failingCreation ∧ ∃ e, result = .error (.error e)) ∨
      ∃ now, y.2 = some now ∧ (result = .ok none ↔ s.Stands resource now x.store) := by
  cases tried with
  | untold failing idle => exact .inl ⟨rfl, failing, _, rfl⟩
  | taken free stored => exact .inr ⟨_, rfl, nofun, fun standing => absurd standing free⟩
  | away stands idle => exact .inr ⟨_, rfl, fun _ => stands, fun _ => rfl⟩
  | failed free idle => exact .inr ⟨_, rfl, nofun, fun standing => absurd standing free⟩

theorem along_acquire_written (s : LeaseService) (resource : String) (durationSecs : UInt64)
    (x : Moment) :
    Along (Moment.surroundings allows) Eq (fun _ _ => True)
      (fun result y => match result with
        | .ok (some _) => True
        | _ => y.written = x.written) (s.acquire resource durationSecs) x := by
  refine ((along_acquire_tried s resource durationSecs x).weaken fun result y tried => ?_).forgetting
  cases tried with
  | taken => trivial
  | untold _ idle | away _ idle | failed _ idle => exact idle

/-- The leases of other resources are as they were. -/
def OthersKept (s : LeaseService) (resource : String) (x y : Moment) : Prop :=
  ∀ id, id ≠ resource → y.store.document? s.index id = x.store.document? s.index id

theorem OthersKept.refl (x : Moment) : s.OthersKept resource x x := fun _ _ => rfl

theorem OthersKept.trans {x y z : Moment} (first : s.OthersKept resource x y)
    (second : s.OthersKept resource y z) : s.OthersKept resource x z :=
  fun id other => (second id other).trans (first id other)

/-- What becomes of the leases while the holder of one works: it is renewed, or all of them are left
alone. -/
def Tended (s : LeaseService) (x y : Moment × Lease) : Prop :=
  s.Renewed x y ∨ y.2 = x.2 ∧ y.1.store.indices.find? s.index = x.1.store.indices.find? s.index

section Tended

variable {x y : Moment × Lease}

theorem Tended.refl (x : Moment × Lease) : s.Tended x x := .inr ⟨rfl, rfl⟩

/-- Who asks for nothing that changes the index of leases tends a lease. -/
theorem Tended.of_spares {request : Request} {a : request.Answer} (spares : request.Spares s.index)
    (answered : (Moment.surroundings allows).held s.Renewed request x a y) : s.Tended x y := by
  by_cases renews : request = .renewLease
  · subst renews
    exact .inl answered
  · obtain ⟨answered, lease⟩ := (Surroundings.held_of_ne renews).mp answered
    exact .inr ⟨lease, Moment.find?_of_spares spares answered⟩

theorem Tended.resource_eq (tended : s.Tended x y) : y.2.resource = x.2.resource := by
  rcases tended with renewed | ⟨same, -⟩
  · exact renewed.resource_eq
  · rw [same]

theorem Tended.holds (tended : s.Tended x y) (holds : s.Holds x) : s.Holds y := by
  rcases tended with renewed | ⟨same, kept⟩
  · exact renewed.holds holds
  · exact holds.congr same kept

theorem Tended.others (tended : s.Tended x y) : s.OthersKept x.2.resource x.1 y.1 := by
  intro id other
  rcases tended with renewed | ⟨-, kept⟩
  · exact renewed.changesOnly.documents id other
  · rw [Memory.document?, Memory.document?, kept]

end Tended

/-- Giving back the stored lease removes it and leaves the others alone. -/
private theorem along_giveBack (allows : (r : Request) → r.Answer → Prop) {lease : Lease}
    {x : Moment} (holds : s.Holds (x, lease)) :
    Along (Moment.surroundings allows) Eq (s.OthersKept lease.resource)
      (fun _ y => y.store.document? s.index lease.resource = none) (s.releaseQuietly lease) x :=
  (along_releaseQuietly_held s holds).mono (fun _ _ same => same)
    (fun _ _ changes => changes.documents) fun _ _ => And.right

/-- A lease that is tended while its holder works is gone when the work has ended, whether with a value
or with an error, if every time of a renewal can be reckoned with. -/
theorem along_withLease_tended {work : Program α} {lease : Lease} {x : Moment}
    {faulty : Fault → Prop} (holds : s.Holds (x, lease)) (inRange : ∀ takenAt,
      takenAt = lease.takenAt ∨ allows .now takenAt → ∃ due, takenAt.plus s.renewAfter = .ok due)
    (along : Along ((Moment.surroundings allows).held s.Renewed) Eq s.Tended
      (Concludes (fun _ _ => True) (fun _ _ => True) fun f _ => faulty f) work (x, lease)) :
    Along (Moment.surroundings allows) Eq (s.OthersKept lease.resource)
      (Concludes (fun _ y => y.store.document? s.index lease.resource = none) (fun _ _ => False)
        fun f _ => faulty f) (s.withLease lease work) x := by
  let own (y : Moment × Lease) : Prop := y.2.resource = lease.resource ∧ s.Holds y
  have kept : ∀ y z, own y → s.Tended y z → own z := fun y z ⟨owned, there⟩ tended =>
    ⟨tended.resource_eq.trans owned, tended.holds there⟩
  refine along_withLease_or_fault s .refl (fun y held z same renewed => ?_)
    (fun f y takenAt times fault => ?_) ((along.keeping ⟨rfl, holds⟩ kept).mono
      (fun _ _ same => same) (fun y z ⟨⟨owned, _⟩, tended⟩ => ?_) fun result y ended => ?_)
  · exact same ▸ Tended.others (.inl renewed)
  · obtain ⟨due, plus⟩ := inRange takenAt times
    cases plus.symm.trans fault
  · exact owned ▸ tended.others
  · obtain ⟨⟨owned, there⟩, settled⟩ := ended
    have gives := along_giveBack allows there
    rw [owned] at gives
    match result with
    | .ok _ => exact gives
    | .error (.error _) => exact gives
    | .error (.fault _) => exact settled

end LeaseService

end IndicatorFeeds

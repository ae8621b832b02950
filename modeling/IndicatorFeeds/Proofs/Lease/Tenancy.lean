import IndicatorFeeds.Proofs.Documents
import IndicatorFeeds.Proofs.Program.Along
import IndicatorFeeds.Proofs.Store.Memory

/-!
Tenancies of leases. A ledger keeps, beside the store and the clock that all clients share, which
leases have been written for which tenancy and which tenancies a release has ended. In a sound
ledger the lease of a tenancy that goes on is either over or guarded by the stored version, and the
four things that operations do to a ledger keep it sound.
-/

namespace IndicatorFeeds

open Store (Memory Call)

theorem Instant.millis_of_plus {t s : Instant} {d : Span} (sum : t.plus d = .ok s) :
    s.millis = t.millis + d.millis := by
  unfold plus ofMillis? at sum
  split at sum
  · rename_i found
    split at found
    · obtain rfl := Option.some.inj found
      obtain rfl := Except.ok.inj sum
      rfl
    · cases found
  · cases sum

namespace Reading

variable {r s : Reading} {d : Span}

theorem plus_eq_ok_iff :
    r.plus d = .ok s ↔ r.instant.plus d = .ok s.instant ∧ s.nanos = r.nanos := by
  unfold plus
  cases r.instant.plus d with
  | error => exact ⟨nofun, fun ⟨sum, _⟩ => nomatch sum⟩
  | ok later =>
    constructor
    · intro sum
      obtain rfl := Except.ok.inj sum
      exact ⟨rfl, rfl⟩
    · rintro ⟨sum, nanos⟩
      obtain rfl := Except.ok.inj sum
      obtain ⟨instant, rest, below⟩ := s
      obtain rfl : rest = r.nanos := nanos
      rfl

theorem millis_of_plus (sum : r.plus d = .ok s) : s.millis = r.millis + d.millis :=
  Instant.millis_of_plus (plus_eq_ok_iff.mp sum).1

theorem total_of_plus (sum : r.plus d = .ok s) : s.total = r.total + d.millis * 1000000 := by
  unfold total
  rw [millis_of_plus sum, (plus_eq_ok_iff.mp sum).2]
  omega

end Reading

theorem LeaseDocument.lapsed {d : LeaseDocument} {now : Reading} (lapsed : d.isLive now = .ok false) :
    ∃ stop, leaseEnd d.takenAt d.durationSecs = .ok stop ∧ .whole stop ≤ now := by
  unfold isLive at lapsed
  cases ends : leaseEnd d.takenAt d.durationSecs with
  | error => simp only [ends, bind, Except.bind, reduceCtorEq] at lapsed
  | ok stop =>
    simp only [ends, bind, Except.bind, pure, Except.pure, Except.ok.injEq,
      decide_eq_false_iff_not] at lapsed
    exact ⟨stop, rfl, Int.not_lt.mp lapsed⟩

namespace Lease

variable {lease lease' : Lease} {now later stop stop' : Reading}

/-- The lease has not run out for its holder. -/
def LiveAt (lease : Lease) (now : Reading) : Prop :=
  ∃ stop, lease.expiresAt = .ok stop ∧ now < stop

theorem LiveAt.earlier (live : lease.LiveAt later) (le : now ≤ later) : lease.LiveAt now :=
  let ⟨stop, ends, before⟩ := live
  ⟨stop, ends, Int.lt_of_le_of_lt le before⟩

/-- Of two leases of one length the one that has been taken later ends later. -/
theorem expiresAt_mono (le : lease.takenAt ≤ lease'.takenAt)
    (length : lease.durationSecs = lease'.durationSecs) (first : lease.expiresAt = .ok stop)
    (second : lease'.expiresAt = .ok stop') : stop ≤ stop' := by
  unfold expiresAt at first second
  rw [length] at first
  cases span : seconds lease'.durationSecs with
  | error => simp [span, bind, Except.bind] at first
  | ok span' =>
    simp only [span, bind, Except.bind] at first second
    show stop.total ≤ stop'.total
    rw [Reading.total_of_plus first, Reading.total_of_plus second]
    exact Int.add_le_add_right le _

theorem expiresAt_eq (lease : Lease) : lease.expiresAt =
    (leaseEnd lease.takenAt.instant lease.durationSecs).map fun stop =>
      { lease.takenAt with instant := stop } := by
  unfold expiresAt leaseEnd Reading.plus
  cases seconds lease.durationSecs with
  | error => rfl
  | ok span =>
    show _ = Except.map _ (lease.takenAt.instant.plus span)
    cases sum : lease.takenAt.instant.plus span with
    | error => simp [sum, bind, Except.bind, Except.map]
    | ok => simp [sum, bind, Except.bind, Except.map, pure, Except.pure]

/-- The lease as its document has it. -/
def stored (lease : Lease) : Lease := { lease with takenAt := .whole lease.takenAt.instant }

theorem stored_of_whole (whole : lease.takenAt.nanos = 0) : lease.stored = lease := by
  obtain ⟨_, ⟨_, nanos, _⟩, _, _⟩ := lease
  obtain rfl : nanos = 0 := whole
  rfl

@[simp] theorem stored_resource (lease : Lease) : lease.stored.resource = lease.resource := rfl

@[simp] theorem stored_version (lease : Lease) : lease.stored.version = lease.version := rfl

/-- The lease has run out as its document has it, but not for its holder: the nanoseconds are passing
that the document leaves out. -/
def Lapsing (lease : Lease) (now : Reading) : Prop :=
  leaseEnd lease.takenAt.instant lease.durationSecs = .ok now.instant ∧
    now.nanos < lease.takenAt.nanos

theorem stored_liveAt_iff : lease.stored.LiveAt now ↔
    ∃ stop, leaseEnd lease.takenAt.instant lease.durationSecs = .ok stop ∧ now.instant < stop := by
  unfold LiveAt
  rw [expiresAt_eq]
  show (∃ stop, (leaseEnd lease.takenAt.instant lease.durationSecs).map _ = .ok stop ∧ _) ↔ _
  cases leaseEnd lease.takenAt.instant lease.durationSecs with
  | error => exact ⟨fun ⟨_, ends, _⟩ => (nomatch ends), fun ⟨_, ends, _⟩ => (nomatch ends)⟩
  | ok stop =>
    constructor
    · rintro ⟨_, ends, before⟩
      obtain rfl := Except.ok.inj ends
      exact ⟨stop, rfl, Reading.lt_whole_iff.mp before⟩
    · rintro ⟨_, ends, before⟩
      obtain rfl := Except.ok.inj ends
      exact ⟨_, rfl, Reading.lt_whole_iff.mpr before⟩

/-- A lease outlasts its document, by less than a millisecond. -/
theorem liveAt_iff : lease.LiveAt now ↔ lease.stored.LiveAt now ∨ lease.Lapsing now := by
  rw [stored_liveAt_iff]
  unfold LiveAt Lapsing
  rw [expiresAt_eq]
  cases leaseEnd lease.takenAt.instant lease.durationSecs with
  | error => simp [Except.map]
  | ok stop =>
    simp only [Except.map, Except.ok.injEq, exists_eq_left']
    rw [Reading.lt_iff]
    refine or_congr Iff.rfl (and_congr_left fun _ => ⟨fun same => ?_, fun same => by rw [same]; rfl⟩)
    obtain ⟨millis, _⟩ := stop
    obtain ⟨⟨millis', _⟩, _, _⟩ := now
    obtain rfl : millis' = millis := same
    rfl

end Lease

namespace Tenancy

/-- What the clients share, and what has come of the tenancies of their leases. -/
structure Ledger where
  store : Memory
  clock : Reading
  /-- Every lease that has been written, with its tenancy. -/
  issued : List (Nat × Lease)
  /-- The tenancies whose lease has been deleted by a release. -/
  ended : List Nat

/-- The lease that a document stands for. -/
def leaseOf? (source : Json.Value) (version : Store.Version) : Option Lease :=
  (LeaseDocument.fromJson? (.ofValue source)).map fun d =>
    ⟨d.resource, .whole d.takenAt, d.durationSecs, version⟩

@[simp] theorem leaseOf?_document (lease : Lease) (version : Store.Version) :
    leaseOf? lease.document.toJson version = some { lease.stored with version } := by
  simp [leaseOf?, LeaseDocument.fromJson?_toJson, Lease.document, Lease.stored]

namespace Ledger

variable {index : String} {l : Ledger}

/-- The ledger after the store has answered a call of a tenancy. -/
def after (l : Ledger) (tenancy : Nat) (store : Memory) : (c : Call) → c.Answer → Ledger
  | .putDocument _ _ source _, .ok version =>
    { l with store, issued := ((leaseOf? source version).map (tenancy, ·)).toList ++ l.issued }
  | .deleteDocument .., .ok _ => { l with store, ended := tenancy :: l.ended }
  | _, _ => { l with store }

theorem after_putDocument (l : Ledger) (index : String) (tenancy : Nat) (store : Memory) (lease : Lease)
    (condition : Store.WriteCondition) (version : Store.Version) :
    l.after tenancy store (.putDocument index lease.resource lease.document.toJson condition)
        (.ok version) =
      { l with store, issued := (tenancy, { lease.stored with version }) :: l.issued } := by
  simp [after]

/-- The surroundings of an operation of a tenancy: calls reach the store one at a time, the time is
that of the shared clock, and anything else may be answered in any way. -/
def exchange (tenancy : Nat) : Surroundings Ledger
  | .store c, l, a, l' => ∃ store, l.store.answer c = (a, store) ∧ l' = l.after tenancy store c a
  | .now, l, now, l' => now = l.clock ∧ l' = l
  | _, l, _, l' => l' = l

/-- What is never undone in a ledger. -/
structure Later (l l' : Ledger) : Prop where
  clock : l.clock ≤ l'.clock
  lastSeqNo : l.store.lastSeqNo ≤ l'.store.lastSeqNo
  issued : ∀ entry ∈ l.issued, entry ∈ l'.issued
  fresh : ∀ entry ∈ l'.issued, entry ∈ l.issued ∨ l.store.lastSeqNo < entry.2.version.seqNo

theorem Later.refl (l : Ledger) : Later l l :=
  ⟨Int.le_refl _, Nat.le_refl _, fun _ => id, fun _ => .inl⟩

theorem Later.trans (first : Later l m) (second : Later m n) : Later l n where
  clock := Reading.le_trans first.clock second.clock
  lastSeqNo := Nat.le_trans first.lastSeqNo second.lastSeqNo
  issued entry member := second.issued entry (first.issued entry member)
  fresh entry member := by
    rcases second.fresh entry member with old | fresh
    · exact first.fresh entry old
    · exact .inr (Nat.lt_of_le_of_lt first.lastSeqNo fresh)

/-- The stored version of the lease's resource is that of a lease of the same tenancy which goes at
least as long. -/
def Guarded (index : String) (l : Ledger) (tenancy : Nat) (lease : Lease) : Prop :=
  ∃ guard stored, (tenancy, guard) ∈ l.issued ∧ guard.resource = lease.resource ∧
    guard.durationSecs = lease.durationSecs ∧ lease.takenAt ≤ guard.takenAt ∧
    l.store.document? index lease.resource = some stored ∧ stored.version = guard.version

/-- What holds of the ledger of clients whose leases are in this index. -/
structure Sound (index : String) (l : Ledger) : Prop where
  cut : ∀ entry ∈ l.issued, entry.2.takenAt.nanos = 0
  numbered : ∀ id stored, l.store.document? index id = some stored →
    stored.version.seqNo ≤ l.store.lastSeqNo
  issuedNumbered : ∀ entry ∈ l.issued, entry.2.version.seqNo ≤ l.store.lastSeqNo
  takenBefore : ∀ entry ∈ l.issued, entry.2.takenAt ≤ l.clock
  unique : ∀ one ∈ l.issued, ∀ other ∈ l.issued, one.2.version = other.2.version → one = other
  written : ∀ entry ∈ l.issued, ∀ id stored, l.store.document? index id = some stored →
    stored.version = entry.2.version → stored.source = entry.2.document.toJson
  guarded : ∀ tenancy lease, (tenancy, lease) ∈ l.issued → tenancy ∉ l.ended →
    lease.LiveAt l.clock → l.Guarded index tenancy lease

/-- The ledger has changed, and only as operations and other clients may change it. -/
def Moved (index : String) (l l' : Ledger) : Prop := Later l l' ∧ Sound index l'

theorem Moved.stays (moved : Moved index l m) : Moved index m m :=
  ⟨.refl m, moved.2⟩

theorem Moved.trans (first : Moved index l m) (second : Moved index m n) : Moved index l n :=
  ⟨first.1.trans second.1, second.2⟩

/-- Time goes by, or something else than the leases is changed. -/
theorem Sound.quiet (sound : Sound index l) {store : Memory} {clock : Reading}
    (same : ∀ id, store.document? index id = l.store.document? index id)
    (numbers : l.store.lastSeqNo ≤ store.lastSeqNo) (later : l.clock ≤ clock) :
    Moved index l { l with store, clock } := by
  refine ⟨⟨later, numbers, fun _ => id, fun _ => .inl⟩, ?_⟩
  constructor
  case cut => exact sound.cut
  case numbered =>
    intro id stored there
    rw [same] at there
    exact Nat.le_trans (sound.numbered id stored there) numbers
  case issuedNumbered =>
    intro entry member
    exact Nat.le_trans (sound.issuedNumbered entry member) numbers
  case takenBefore =>
    intro entry member
    exact Reading.le_trans (sound.takenBefore entry member) later
  case unique => exact sound.unique
  case written =>
    intro entry member id stored there
    rw [same] at there
    exact sound.written entry member id stored there
  case guarded =>
    intro tenancy lease member goesOn live
    obtain ⟨guard, stored, issued, resource, duration, taken, there, version⟩ :=
      sound.guarded tenancy lease member goesOn (live.earlier later)
    exact ⟨guard, stored, issued, resource, duration, taken, by rw [same, there], version⟩

/-- A lease is written. Nobody else has a live lease of the resource then, and the leases that
the tenancy has of it are as long and have not been taken later. -/
theorem Sound.taken (sound : Sound index l) (tenancy : Nat) (lease : Lease)
    (cut : lease.takenAt.nanos = 0) (inTime : lease.takenAt ≤ l.clock)
    (numbered : lease.version = Memory.version (l.store.lastSeqNo + 1))
    (free : ∀ holder held, (holder, held) ∈ l.issued → holder ∉ l.ended → held.LiveAt l.clock →
      held.resource = lease.resource → holder = tenancy ∧ lease.durationSecs = held.durationSecs ∧
        held.takenAt ≤ lease.takenAt) :
    Moved index l { l with
      store := l.store.write index lease.resource lease.document.toJson
      issued := (tenancy, lease) :: l.issued } := by
  have newest : l.store.lastSeqNo < lease.version.seqNo := by
    rw [numbered]
    exact Nat.lt_succ_self _
  have differs {entry : Nat × Lease} (member : entry ∈ l.issued) :
      entry.2.version ≠ lease.version := fun same =>
    Nat.not_lt_of_le (sound.issuedNumbered entry member) (same ▸ newest)
  have own : (l.store.write index lease.resource lease.document.toJson).document? index
      lease.resource = some ⟨lease.version, lease.document.toJson⟩ := by
    rw [Memory.document?_write_self, numbered]
  constructor
  · refine ⟨Int.le_refl _, Nat.le_succ _, fun _ => List.mem_cons_of_mem _, fun entry member => ?_⟩
    rcases List.mem_cons.mp member with rfl | old
    · exact .inr newest
    · exact .inl old
  constructor
  case cut => exact List.forall_mem_cons.mpr ⟨cut, sound.cut⟩
  case numbered =>
    intro id stored there
    rcases Memory.document?_write there with old | new
    · exact Nat.le_succ_of_le (sound.numbered id stored old)
    · exact Nat.le_of_eq new
  case issuedNumbered =>
    have last : lease.version.seqNo ≤ l.store.lastSeqNo + 1 := by
      rw [numbered]
      exact Nat.le_refl _
    exact List.forall_mem_cons.mpr
      ⟨last, fun entry old => Nat.le_succ_of_le (sound.issuedNumbered entry old)⟩
  case takenBefore => exact List.forall_mem_cons.mpr ⟨inTime, sound.takenBefore⟩
  case unique =>
    refine List.forall_mem_cons.mpr ⟨List.forall_mem_cons.mpr ⟨fun _ => rfl, ?_⟩, fun one old =>
      List.forall_mem_cons.mpr ⟨fun same => absurd same (differs old), sound.unique one old⟩⟩
    intro other old same
    exact absurd same.symm (differs old)
  case written =>
    intro entry member id stored there same
    by_cases here : id = lease.resource
    · subst here
      rw [own] at there
      obtain rfl := Option.some.inj there
      rcases List.mem_cons.mp member with rfl | old
      · rfl
      · exact absurd same.symm (differs old)
    · rw [Memory.document?_write_of_ne _ here] at there
      rcases List.mem_cons.mp member with rfl | old
      · exact absurd (sound.numbered id stored there) (Nat.not_le_of_lt (same ▸ newest))
      · exact sound.written entry old id stored there same
  case guarded =>
    intro holder held member goesOn live
    rcases List.mem_cons.mp member with same | old
    · cases same
      exact ⟨lease, _, List.mem_cons_self, rfl, rfl, Int.le_refl _, own, rfl⟩
    by_cases here : held.resource = lease.resource
    · obtain ⟨rfl, duration, taken⟩ := free holder held old goesOn live here
      refine ⟨lease, ⟨lease.version, lease.document.toJson⟩, List.mem_cons_self, here.symm,
        duration, taken, ?_, rfl⟩
      rw [here, own]
    · obtain ⟨guard, stored, issued, resource, duration, taken, there, version⟩ :=
        sound.guarded holder held old goesOn live
      refine ⟨guard, stored, List.mem_cons_of_mem _ issued, resource, duration, taken, ?_, version⟩
      rw [Memory.document?_write_of_ne _ here, there]

/-- The lease of a tenancy is deleted, which ends the tenancy. -/
theorem Sound.released (sound : Sound index l) {store : Memory} {tenancy : Nat} {lease : Lease}
    (issued : (tenancy, lease) ∈ l.issued)
    (current : ∀ stored, l.store.document? index lease.resource = some stored →
      stored.version = lease.version)
    (numbers : store.lastSeqNo = l.store.lastSeqNo)
    (gone : store.document? index lease.resource = none)
    (same : ∀ id, id ≠ lease.resource → store.document? index id = l.store.document? index id) :
    Moved index l { l with store, ended := tenancy :: l.ended } := by
  have before {id stored} (there : store.document? index id = some stored) :
      l.store.document? index id = some stored := by
    by_cases here : id = lease.resource
    · rw [here, gone] at there
      cases there
    · rwa [same id here] at there
  refine ⟨⟨Int.le_refl _, Nat.le_of_eq numbers.symm, fun _ => id, fun _ => .inl⟩, ?_⟩
  constructor
  case cut => exact sound.cut
  case numbered =>
    intro id stored there
    rw [numbers]
    exact sound.numbered id stored (before there)
  case issuedNumbered =>
    intro entry member
    rw [numbers]
    exact sound.issuedNumbered entry member
  case takenBefore => exact sound.takenBefore
  case unique => exact sound.unique
  case written =>
    intro entry member id stored there
    exact sound.written entry member id stored (before there)
  case guarded =>
    intro holder held member goesOn live
    obtain ⟨notThis, goesOn⟩ := not_or.mp (mt List.mem_cons.mpr goesOn)
    obtain ⟨guard, stored, guardIssued, resource, duration, taken, there, version⟩ :=
      sound.guarded holder held member goesOn live
    have elsewhere : held.resource ≠ lease.resource := by
      intro here
      have guards := (current stored (here ▸ there)).symm.trans version
      exact notThis (congrArg Prod.fst (sound.unique _ issued _ guardIssued guards)).symm
    refine ⟨guard, stored, guardIssued, resource, duration, taken, ?_, version⟩
    rw [same _ elsewhere, there]

end Ledger

end Tenancy

end IndicatorFeeds

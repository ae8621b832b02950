import IndicatorFeeds.Proofs.Lease.Tenancy

/-!
Mutual exclusion. Clients take, renew and give back leases in operations of several calls each, and
the calls of all of them reach the store in any order.
-/

namespace IndicatorFeeds.Tenancy

open Store (Memory Call)
open Program Ledger

section Operations

variable {index : String} {l l' : Ledger} {tenancy : Nat}

/-- An operation that ends with a lease has had it written for its tenancy. -/
def Holds (tenancy : Nat) : Except Failure (Option Lease) → Ledger → Prop
  | .ok (some lease), l => (tenancy, lease.stored) ∈ l.issued
  | _, _ => True

theorem Ledger.Sound.createIndex (sound : Sound index l) {spec : Store.IndexSpec}
    {a : Except Store.Error Unit}
    (answered : exchange tenancy (.store (.createIndex index spec)) l a l') : Moved index l l' := by
  obtain ⟨store, answer, rfl⟩ := answered
  rcases Memory.changed_cases answer with ⟨rfl, made⟩ | ⟨e, rfl, -, rfl⟩
  · obtain ⟨-, missing, rfl⟩ := Memory.createIndex_eq_ok_iff.mp made
    refine sound.quiet (fun id => ?_) (Nat.le_refl _) (Int.le_refl _)
    simp [Memory.document?, missing, Memory.freshIndex]
  · exact sound.quiet (fun _ => rfl) (Nat.le_refl _) (Int.le_refl _)

private theorem along_ensureIndex (service : LeaseService) (l : Ledger) :
    Along (exchange tenancy) (Moved service.index) (Moved service.index) (fun _ _ => True)
      service.ensureIndex l := by
  intro t moved ready _ answered
  obtain rfl := answered
  refine ⟨moved.stays, ?_⟩
  cases ready with
  | true => trivial
  | false =>
    intro t moved made u answered
    have moved := moved.2.createIndex answered
    refine ⟨moved, ?_⟩
    have marked : Along (exchange tenancy) (Moved service.index) (Moved service.index)
        (fun _ _ => True) (Program.request (.markLeaseIndexReady service.id)) u := by
      intro t moved _ _ answered
      obtain rfl := answered
      exact ⟨moved.stays, trivial⟩
    match made with
    | .ok () => exact marked
    | .error (.alreadyExists _) => exact marked
    | .error (.indexNotFound _) | .error (.documentNotFound ..) | .error (.versionConflict ..)
    | .error (.transport _) | .error (.backend _) => trivial

/-- Whatever lease has this version is over at this time, and none will have it later. -/
def Spent (version : Store.Version) (now : Reading) (l : Ledger) : Prop :=
  version.seqNo ≤ l.store.lastSeqNo ∧
    ∀ entry ∈ l.issued, entry.2.version = version → ∃ stop, entry.2.expiresAt = .ok stop ∧ stop ≤ now

theorem Spent.later {version : Store.Version} {now : Reading} (spent : Spent version now l)
    (later : Later l l') : Spent version now l' := by
  refine ⟨Nat.le_trans spent.1 later.lastSeqNo, fun entry member same => ?_⟩
  rcases later.fresh entry member with old | fresh
  · exact spent.2 entry old same
  · rw [same] at fresh
    exact absurd spent.1 (Nat.not_le_of_lt fresh)

theorem Ledger.Sound.spent (sound : Sound index l) {resource : String}
    {stored : Store.StoredDocument} {document : LeaseDocument} {now : Reading}
    (there : l.store.document? index resource = some stored)
    (read : LeaseDocument.fromJson? (.ofValue stored.source) = some document)
    (lapsed : document.isLive now = .ok false) : Spent stored.version now l := by
  refine ⟨sound.numbered resource stored there, fun entry member same => ?_⟩
  have written := sound.written entry member resource stored there same.symm
  rw [written, LeaseDocument.fromJson?_toJson] at read
  obtain rfl := Option.some.inj read
  obtain ⟨stop, ends, past⟩ := LeaseDocument.lapsed lapsed
  refine ⟨⟨stop, _, entry.2.takenAt.below⟩, ?_, ?_⟩
  · rw [Lease.expiresAt_eq]
    exact congrArg (Except.map _) ends
  · simp only [sound.cut entry member]
    exact past

/-- Where the stored version is spent nobody has a live lease. -/
theorem Ledger.Sound.not_live (sound : Sound index l) {holder : Nat} {held : Lease}
    {version : Store.Version} {now : Reading} (spent : Spent version now l) (past : now ≤ l.clock)
    (current : (l.store.document? index held.resource).map (·.version) = some version)
    (member : (holder, held) ∈ l.issued) (goesOn : holder ∉ l.ended) : ¬held.LiveAt l.clock := by
  intro live
  obtain ⟨guard, stored, issued, -, duration, taken, there, guards⟩ :=
    sound.guarded holder held member goesOn live
  rw [there, Option.map_some, Option.some.injEq] at current
  obtain ⟨stop, ends, lapsed⟩ := spent.2 (holder, guard) issued (guards ▸ current)
  obtain ⟨stop', ends', after⟩ := live
  have le : stop' ≤ stop := Lease.expiresAt_mono taken duration.symm ends' ends
  have past : stop' ≤ l.clock := Reading.le_trans le (Reading.le_trans lapsed past)
  exact Int.not_lt.mpr past after

/-- What is known of a lease that is to be written under a condition: where the condition is met,
whoever has a live lease of its resource is the tenancy itself. -/
def Free (index : String) (tenancy : Nat) (lease : Lease) (condition : Store.WriteCondition)
    (l : Ledger) : Prop :=
  Memory.refusal? index lease.resource
      ((l.store.document? index lease.resource).map (·.version)) condition = none →
    ∀ holder held, (holder, held) ∈ l.issued → holder ∉ l.ended → held.LiveAt l.clock →
      held.resource = lease.resource → holder = tenancy ∧
        lease.durationSecs = held.durationSecs ∧ held.takenAt ≤ lease.takenAt

theorem Ledger.Sound.put (sound : Sound index l) {lease : Lease}
    {condition : Store.WriteCondition} (cut : lease.takenAt.nanos = 0) (inTime : lease.takenAt ≤ l.clock)
    (free : Free index tenancy lease condition l) {a : Except Store.Error Store.Version}
    (answered : exchange tenancy (.store (.putDocument index lease.resource lease.document.toJson
      condition)) l a l') :
    Moved index l l' ∧ ∀ version, a = .ok version → (tenancy, { lease with version }) ∈ l'.issued := by
  obtain ⟨store, answer, rfl⟩ := answered
  rcases Memory.putDocument_cases answer with ⟨version, rfl, made⟩ | ⟨e, rfl, -, rfl⟩
  · obtain ⟨accepted, -, rfl, rfl⟩ := Memory.putDocument_eq_ok_iff.mp made
    have moved := sound.taken tenancy { lease with version := Memory.version (l.store.lastSeqNo + 1) }
      cut inTime rfl (free accepted)
    have same := l.after_putDocument index tenancy (l.store.write index lease.resource
      lease.document.toJson) lease condition (Memory.version (l.store.lastSeqNo + 1))
    rw [Lease.stored_of_whole cut] at same
    refine ⟨same ▸ moved, fun version ok => ?_⟩
    obtain rfl := Except.ok.inj ok
    exact same ▸ List.mem_cons_self
  · exact ⟨sound.quiet (fun _ => rfl) (Nat.le_refl _) (Int.le_refl _), nofun⟩

private theorem along_putDocument (lease : Lease) {condition : Store.WriteCondition}
    {next : Except Store.Error Store.Version → Program (Option Lease)}
    (cut : lease.takenAt.nanos = 0) (inTime : lease.takenAt ≤ l.clock)
    (free : ∀ l', Moved index l l' → Free index tenancy lease condition l')
    (taken : ∀ version l', Moved index l l' → (tenancy, { lease with version }) ∈ l'.issued →
      Along (exchange tenancy) (Moved index) (Moved index) (Holds tenancy) (next (.ok version)) l')
    (refused : ∀ e l', Moved index l l' →
      Along (exchange tenancy) (Moved index) (Moved index) (Holds tenancy) (next (.error e)) l') :
    Along (exchange tenancy) (Moved index) (Moved index) (Holds tenancy)
      (ask (.store (.putDocument index lease.resource lease.document.toJson condition)) next) l := by
  intro t moved a u answered
  obtain ⟨kept, written⟩ := moved.2.put cut (Reading.le_trans inTime moved.1.clock) (free t moved) answered
  refine ⟨kept, ?_⟩
  match a with
  | .ok version => exact taken version u (moved.trans kept) (written version rfl)
  | .error e => exact refused e u (moved.trans kept)

/-- The lease of a new tenancy is written over nothing, or over a lease that is over. -/
theorem along_acquire (service : LeaseService) (resource : String) (durationSecs : UInt64)
    (l : Ledger) :
    Along (exchange tenancy) (Moved service.index) (Moved service.index) (Holds tenancy)
      (service.acquire resource durationSecs) l := by
  refine along_bind_iff.mpr ((along_ensureIndex service l).weaken fun result s _ => ?_)
  match result with
  | .error _ => trivial
  | .ok () =>
  rintro s moved (now : Reading) _ ⟨clock, rfl⟩
  refine ⟨moved.stays, ?_⟩
  rintro t moved found _ ⟨_, answer, rfl⟩
  have inTime : now ≤ t.clock := clock ▸ moved.1.clock
  have cutInTime : Reading.whole now.instant ≤ t.clock := Reading.le_trans now.whole_le inTime
  obtain ⟨rfl, rfl⟩ := Prod.mk.inj answer
  refine ⟨moved.stays, ?_⟩
  have sound := moved.2
  cases there : t.store.document? service.index resource with
  | none =>
    have unread : t.store.getDocument service.index resource = none := by
      simp only [Memory.getDocument, there, Option.map_none]
    rw [unread]
    refine along_putDocument ⟨resource, .whole now.instant, durationSecs, default⟩ rfl cutInTime ?_
      (fun _ _ _ held => held) (fun e _ _ => by cases e <;> trivial)
    intro u moved accepted holder held member goesOn live here
    obtain ⟨_, stored, _, _, _, _, there, _⟩ := moved.2.guarded holder held member goesOn live
    rw [here] at there
    simp [Memory.refusal?, there] at accepted
  | some stored =>
    have read : t.store.getDocument service.index resource =
        some ⟨resource, stored.version, stored.source⟩ := by
      simp only [Memory.getDocument, there, Option.map_some]
    rw [read]
    show Along _ _ _ _
      ((LeaseService.condition now (some ⟨resource, stored.version, stored.source⟩)).bind _) t
    rcases LeaseService.condition_cases now ⟨resource, stored.version, stored.source⟩ with
      ⟨e, same⟩ | same | ⟨document, decoded, lapsed, same⟩ <;> rw [same]
    · trivial
    · trivial
    refine along_putDocument ⟨resource, .whole now.instant, durationSecs, default⟩ rfl cutInTime ?_
      (fun _ _ _ held => held) (fun e _ _ => by cases e <;> trivial)
    intro u moved accepted holder held member goesOn live here
    have spent := (sound.spent there decoded lapsed).later moved.1
    have current : (u.store.document? service.index resource).map (·.version) = some stored.version := by
      simpa [Memory.refusal?] using accepted
    exact absurd live (moved.2.not_live spent (Reading.le_trans inTime moved.1.clock)
      (here ▸ current) member goesOn)

/-- A renewal is written only over the lease that it renews. -/
theorem along_renew (service : LeaseService) {lease : Lease}
    (issued : (tenancy, lease.stored) ∈ l.issued) :
    Along (exchange tenancy) (Moved service.index) (Moved service.index) (Holds tenancy)
      ((service.renew lease).bind fun renewed => done (some renewed)) l := by
  rintro s moved (now : Reading) t ⟨clock, rfl⟩
  refine ⟨moved.stays, ?_⟩
  have issued := moved.1.issued _ issued
  have taken : .whole lease.takenAt.instant ≤ now := clock ▸ moved.2.takenBefore _ issued
  show Along _ _ _ _ (((ofTime (lease.takenAt.plus service.renewAfter)).bind _).bind _) t
  cases lease.takenAt.plus service.renewAfter with
  | error => trivial
  | ok due =>
  by_cases young : now < due
  · simp only [ofTime, bind_done, young, if_true]
    exact issued
  simp only [ofTime, bind_done, young, if_false]
  refine along_putDocument { lease with takenAt := .whole now.instant } rfl
    (clock ▸ now.whole_le) ?_
    (fun _ _ _ held => held) (fun e u moved => ?_)
  · intro u moved accepted holder held member goesOn live here
    obtain ⟨guard, stored, guardIssued, resource, duration, before, there, version⟩ :=
      moved.2.guarded holder held member goesOn live
    have current : stored.version = lease.version := by
      rw [here] at there
      simpa [Memory.refusal?, there] using accepted
    have same := moved.2.unique _ guardIssued _ (moved.1.issued _ issued) (version.symm.trans current)
    obtain ⟨rfl, rfl⟩ := Prod.mk.inj same
    exact ⟨rfl, duration, Reading.le_trans before (Reading.whole_le_whole taken)⟩
  · have issued := moved.1.issued _ issued
    cases e <;> trivial

/-- A release deletes only the lease that it gives back. -/
theorem along_release (service : LeaseService) {lease : Lease}
    (issued : (tenancy, lease.stored) ∈ l.issued) :
    Along (exchange tenancy) (Moved service.index) (Moved service.index) (Holds tenancy)
      ((service.release lease).bind fun _ => done none) l := by
  rintro t moved answer _ ⟨store, answered, rfl⟩
  have issued := moved.1.issued _ issued
  rcases Memory.changed_cases answered with ⟨rfl, deleted⟩ | ⟨e, rfl, -, rfl⟩
  · obtain ⟨found, stored, there, document, current, rfl⟩ := Memory.deleteDocument_eq_ok_iff.mp deleted
    refine ⟨moved.2.released issued (fun stored' there' => ?_) rfl ?_ (fun id other => ?_), trivial⟩
    · have same : stored' = stored := by
        simpa [Memory.document?, there, document] using there'.symm
      simpa [same, eq_comm] using current
    · simp [Memory.document?]
    · have other : lease.resource ≠ id := Ne.symm other
      simp [Memory.document?, there, Store.Table.find?_erase, other]
  · refine ⟨moved.2.quiet (fun _ => rfl) (Nat.le_refl _) (Int.le_refl _), ?_⟩
    cases e <;> trivial

end Operations

/-- An operation of a client: the tenancy that it is of, and what is left of it. It ends with the
lease that its client has then, if it has one. -/
structure Operation where
  tenancy : Nat
  rest : Program (Option Lease)

/-- Clients of leases. Operations stay when they have ended. -/
structure System where
  ledger : Ledger
  operations : List Operation

/-- A client has got this lease from an operation. -/
def System.Owns (s : System) (tenancy : Nat) (lease : Lease) : Prop :=
  ⟨tenancy, done (some lease)⟩ ∈ s.operations

/-- What can happen next: time goes by, a client begins an operation with a service of its own, one
operation under way gets one answer, and others use the store for something else. -/
inductive Step (index : String) : System → System → Prop where
  | tick (time : Reading) (later : l.clock ≤ time) :
      Step index ⟨l, operations⟩ ⟨{ l with clock := time }, operations⟩
  | acquire (service : LeaseService) (uses : service.index = index) (resource : String)
      (durationSecs : UInt64) (fresh : ∀ o ∈ operations, o.tenancy ≠ tenancy) :
      Step index ⟨l, operations⟩
        ⟨l, ⟨tenancy, service.acquire resource durationSecs⟩ :: operations⟩
  | renew (service : LeaseService) (uses : service.index = index)
      (owned : System.Owns ⟨l, operations⟩ tenancy lease) :
      Step index ⟨l, operations⟩
        ⟨l, ⟨tenancy, (service.renew lease).bind fun renewed => done (some renewed)⟩ :: operations⟩
  | release (service : LeaseService) (uses : service.index = index)
      (owned : System.Owns ⟨l, operations⟩ tenancy lease) :
      Step index ⟨l, operations⟩
        ⟨l, ⟨tenancy, (service.release lease).bind fun _ => done none⟩ :: operations⟩
  | exchange (ahead behind : List Operation) (answered : exchange tenancy r l a l') :
      Step index ⟨l, ahead ++ ⟨tenancy, ask r next⟩ :: behind⟩
        ⟨l', ahead ++ ⟨tenancy, next a⟩ :: behind⟩
  | elsewhere (c : Call) (other : c.index ≠ index) :
      Step index ⟨l, operations⟩ ⟨{ l with store := (l.store.answer c).2 }, operations⟩
  | faulty (faults : Store.Faults) :
      Step index ⟨l, operations⟩ ⟨{ l with store := { l.store with faults } }, operations⟩

/-- The systems that come of a store and a time without any operations. -/
def Reachable (index : String) (store : Memory) (clock : Reading) : System → Prop :=
  Relation.ReflTransGen (Step index) ⟨⟨store, clock, [], []⟩, []⟩

variable {index : String} {l l' : Ledger} {tenancy : Nat}

/-- The ledger is sound, and the operations under way keep it so. -/
structure System.Sound (index : String) (s : System) : Prop where
  ledger : s.ledger.Sound index
  operations : ∀ o ∈ s.operations, Along (Ledger.exchange o.tenancy) (Moved index) (Moved index)
    (Holds o.tenancy) o.rest s.ledger

theorem Holds.moved {result : Except Failure (Option Lease)} (holds : Holds tenancy result l)
    (moved : Moved index l l') : Holds tenancy result l' := by
  match result with
  | .ok (some lease) => exact moved.1.issued _ holds
  | .ok none | .error _ => trivial

private theorem System.Sound.moved {operations : List Operation}
    (sound : System.Sound index ⟨l, operations⟩) (moved : Moved index l l') :
    System.Sound index ⟨l', operations⟩ :=
  ⟨moved.2, fun o member => (sound.operations o member).after (fun _ _ _ => Moved.trans)
    (fun _ _ _ => Holds.moved) moved⟩

private theorem System.Sound.begun {operations : List Operation} {o : Operation}
    (sound : System.Sound index ⟨l, operations⟩)
    (along : Along (Ledger.exchange o.tenancy) (Moved index) (Moved index) (Holds o.tenancy) o.rest l) :
    System.Sound index ⟨l, o :: operations⟩ :=
  ⟨sound.ledger, List.forall_mem_cons.mpr ⟨along, sound.operations⟩⟩

theorem Step.sound {s s' : System} (step : Step index s s') (sound : s.Sound index) :
    s'.Sound index := by
  cases step with
  | tick time later => exact sound.moved (sound.ledger.quiet (fun _ => rfl) (Nat.le_refl _) later)
  | acquire service uses resource durationSecs =>
    subst uses
    exact sound.begun (along_acquire service resource durationSecs _)
  | renew service uses owned =>
    subst uses
    exact sound.begun (along_renew service (sound.operations _ owned))
  | release service uses owned =>
    subst uses
    exact sound.begun (along_release service (sound.operations _ owned))
  | exchange ahead behind answered =>
    obtain ⟨moved, along⟩ := sound.operations _ (List.mem_append_right _ List.mem_cons_self) _
      ⟨.refl _, sound.ledger⟩ _ _ answered
    have kept := sound.moved moved
    refine ⟨moved.2, fun o member => ?_⟩
    rcases List.mem_append.mp member with first | second
    · exact kept.operations o (List.mem_append_left _ first)
    · rcases List.mem_cons.mp second with rfl | second
      · exact along
      · exact kept.operations o (List.mem_append_right _ (List.mem_cons_of_mem _ second))
  | elsewhere c other =>
    exact sound.moved (sound.ledger.quiet
      (fun id => (Memory.change_answer _ c).document?_of_ne other.symm id)
      (Memory.change_answer _ c).lastSeqNo_le (Int.le_refl _))
  | faulty faults => exact sound.moved (sound.ledger.quiet (fun _ => rfl) (Nat.le_refl _) (Int.le_refl _))

theorem Reachable.sound {store : Memory} {clock : Reading} {s : System} (made : store.Made)
    (reached : Reachable index store clock s) : s.Sound index := by
  induction reached with
  | refl => exact ⟨⟨by simp, made.numbered index, by simp, by simp, by simp, by simp, by simp⟩, by simp⟩
  | tail _ step ih => exact step.sound ih

theorem reaches_steps {p q : Program (Option Lease)} {operations : List Operation}
    (way : Reaches (Ledger.exchange tenancy) p l q l') :
    Relation.ReflTransGen (Step index) ⟨l, ⟨tenancy, p⟩ :: operations⟩
      ⟨l', ⟨tenancy, q⟩ :: operations⟩ := by
  induction way with
  | here => exact .refl
  | asked answered _ ih => exact .head (.exchange [] operations answered) ih

/-- Mutual exclusion: whatever operations run beside each other, and in whatever order their calls
reach the store, a resource has at no time two tenancies that go on and have a lease that is not over,
but for the nanoseconds that the document of one of the leases leaves out. -/
theorem tenancies_exclusive {store : Memory} {clock now : Reading} {s : System} {one other : Nat}
    {lease lease' : Lease} (made : store.Made) (reached : Reachable index store clock s)
    (owned : s.Owns one lease) (owned' : s.Owns other lease')
    (goesOn : one ∉ s.ledger.ended) (goesOn' : other ∉ s.ledger.ended)
    (resource : lease.resource = lease'.resource) (current : s.ledger.clock ≤ now)
    (live : lease.LiveAt now) (live' : lease'.LiveAt now) :
    one = other ∨ lease.Lapsing now ∨ lease'.Lapsing now := by
  have sound := reached.sound made
  rcases Lease.liveAt_iff.mp live with live | lapsing
  · rcases Lease.liveAt_iff.mp live' with live' | lapsing'
    · left
      obtain ⟨guard, stored, issued, -, -, -, there, version⟩ := sound.ledger.guarded one lease.stored
        (sound.operations _ owned) goesOn (live.earlier current)
      obtain ⟨guard', stored', issued', -, -, -, there', version'⟩ := sound.ledger.guarded other
        lease'.stored (sound.operations _ owned') goesOn' (live'.earlier current)
      rw [Lease.stored_resource] at there there'
      rw [resource, there', Option.some.injEq] at there
      subst there
      exact congrArg Prod.fst
        (sound.ledger.unique _ issued _ issued' (version.symm.trans version'))
    · exact .inr (.inr lapsing')
  · exact .inr (.inl lapsing)

/-- One way of answering an operation: by a service that has not looked for its index yet. -/
private def answered (tenancy : Nat) : (r : Request) → Ledger → r.Answer × Ledger
  | .store c, l =>
    ((l.store.answer c).1, l.after tenancy (l.store.answer c).2 c (l.store.answer c).1)
  | .now, l => (l.clock, l)
  | .leaseIndexReady _, l => (false, l)
  | .http _, l => (none, l)
  | .feedFor _, l => (.ok none, l)
  | .file _, l => (.directory, l)
  | .stopwatch, l | .rings, l => ((0 : Nat), l)
  | .sleep _, l | .turn, l | .renewLease, l | .markLeaseIndexReady _, l => ((), l)

private theorem answered_allowed (tenancy : Nat) (r : Request) (l : Ledger) :
    Ledger.exchange tenancy r l (answered tenancy r l).1 (answered tenancy r l).2 := by
  cases r with
  | store c => exact ⟨_, rfl, rfl⟩
  | now => exact ⟨rfl, rfl⟩
  | _ => exact rfl

private theorem alone_steps {p : Program (Option Lease)} {operations : List Operation}
    {lease : Option Lease} (ends : (p.run (answered tenancy) l).1 = .ok lease) :
    Relation.ReflTransGen (Step index) ⟨l, ⟨tenancy, p⟩ :: operations⟩
      ⟨(p.run (answered tenancy) l).2, ⟨tenancy, done lease⟩ :: operations⟩ := by
  have way := ends_run (answered_allowed tenancy) p l
  rw [ends] at way
  exact reaches_steps way

private def start : Reading := ⟨.epoch, 900000, by decide⟩

/-- A tenth of a millisecond after a lease of five minutes has run out as its document has it. -/
private def expiry : Reading := ⟨⟨300000, by decide⟩, 100000, by decide⟩

/-- A tenth of a millisecond later. -/
private def overlap : Reading := ⟨⟨300000, by decide⟩, 200000, by decide⟩

private def service : LeaseService := ⟨0, ".locks", ⟨1000, by decide⟩⟩

private def first : Lease := ⟨"job", start, 300, ⟨1, 1⟩⟩

private def second : Lease := ⟨"job", expiry, 300, ⟨2, 1⟩⟩

private def begun : Ledger := ⟨.empty, start, [], []⟩

private def taken : Ledger := ((service.acquire "job" 300).run (answered 0) begun).2

private def retaken : Ledger :=
  ((service.acquire "job" 300).run (answered 1) { taken with clock := expiry }).2

private def overlapping : System := ⟨retaken, [⟨1, done (some second)⟩, ⟨0, done (some first)⟩]⟩

private theorem reachable_overlapping : Reachable ".locks" .empty start overlapping := by
  have takes : Step ".locks" ⟨begun, []⟩ ⟨begun, [⟨0, service.acquire "job" 300⟩]⟩ :=
    .acquire service rfl "job" 300 (by simp)
  have owned : Reachable ".locks" .empty start ⟨taken, [⟨0, done (some first)⟩]⟩ :=
    .head takes (alone_steps (by rfl))
  have passes : Step ".locks" ⟨taken, [⟨0, done (some first)⟩]⟩
      ⟨{ taken with clock := expiry }, [⟨0, done (some first)⟩]⟩ := .tick expiry (by decide +kernel)
  have retakes : Step ".locks" ⟨{ taken with clock := expiry }, [⟨0, done (some first)⟩]⟩
      ⟨{ taken with clock := expiry },
        [⟨1, service.acquire "job" 300⟩, ⟨0, done (some first)⟩]⟩ :=
    .acquire service rfl "job" 300 (by simp)
  exact ((owned.tail passes).tail retakes).trans (alone_steps (by rfl))

private theorem first_live : first.LiveAt overlap :=
  ⟨⟨⟨300000, by decide⟩, 900000, by decide⟩, rfl, by decide +kernel⟩

private theorem second_live : second.LiveAt overlap :=
  ⟨⟨⟨600000, by decide⟩, 100000, by decide⟩, rfl, by decide +kernel⟩

/-- Of two tenancies that overlap the first one's lease is lapsing. -/
theorem tenancies_exclusive_overlapping : Reachable ".locks" .empty start overlapping ∧
    overlapping.Owns 0 first ∧ overlapping.Owns 1 second ∧
      ((0 : Nat) = 1 ∨ first.Lapsing overlap ∨ second.Lapsing overlap) := by
  have owned : overlapping.Owns 0 first := List.mem_cons_of_mem _ List.mem_cons_self
  have owned' : overlapping.Owns 1 second := List.mem_cons_self
  exact ⟨reachable_overlapping, owned, owned', tenancies_exclusive .empty reachable_overlapping owned
    owned' (by decide +kernel) (by decide +kernel) rfl (show expiry ≤ overlap by decide +kernel)
    first_live second_live⟩

/-- A lease that was taken within a millisecond can be taken by someone else while its holder still
has it. -/
theorem tenancies_overlap : Reachable ".locks" .empty start overlapping ∧
    overlapping.Owns 0 first ∧ overlapping.Owns 1 second ∧ first.resource = second.resource ∧
      0 ∉ overlapping.ledger.ended ∧ 1 ∉ overlapping.ledger.ended ∧
        overlapping.ledger.clock ≤ overlap ∧ first.LiveAt overlap ∧ second.LiveAt overlap :=
  ⟨reachable_overlapping, List.mem_cons_of_mem _ List.mem_cons_self, List.mem_cons_self, rfl,
    by decide +kernel, by decide +kernel, show expiry ≤ overlap by decide +kernel, first_live,
    second_live⟩

end IndicatorFeeds.Tenancy

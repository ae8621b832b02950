import IndicatorFeeds.Proofs.Lease.Tenancy

/-!
Handles of leases. The handle that a client has from taking or renewing a lease is either the stored
lease, or it never is one again, since no write gets a version that another one has had. A lost handle
does nothing: whatever is done with it leaves the store as it is, and its holder is not told.
-/

namespace IndicatorFeeds.Handles

open Store (Memory Call)
open Program

variable {index : String} {lease : Lease} {m m' : Memory} {allows : (r : Request) → r.Answer → Prop}

/-- The surroundings of an operation on leases: its calls reach the store one at a time, and what else
it asks for may be answered in any of some ways. -/
def exchange (allows : (r : Request) → r.Answer → Prop) : Surroundings Memory
  | .store c, m, a, m' => m.answer c = (a, m')
  | r, m, a, m' => allows r a ∧ m' = m

/-- What happens to a store in which the settings of an index are left alone: it is called, or its
faults become others. -/
inductive Moves (index : String) (m : Memory) : Memory → Prop where
  | call (c : Call) (allowed : ∀ update, c ≠ .updateSettings index update) :
      Moves index m (m.answer c).2
  | faulty (faults : Store.Faults) : Moves index m { m with faults }

/-- Any number of these. -/
abbrev Evolves (index : String) : Memory → Memory → Prop := Relation.ReflTransGen (Moves index)

theorem Moves.numbered (moves : Moves index m m') (numbered : m.Numbered) : m'.Numbered := by
  cases moves with
  | call c => exact numbered.change (Memory.change_answer m c)
  | faulty => exact numbered

theorem Evolves.numbered (evolves : Evolves index m m') (numbered : m.Numbered) : m'.Numbered := by
  induction evolves with
  | refl => exact numbered
  | tail _ moves ih => exact moves.numbered ih

theorem Moves.of_answer {c : Call} {a : c.Answer} (answered : exchange allows (.store c) m a m')
    (allowed : ∀ update, c ≠ .updateSettings index update) : Moves index m m' := by
  have made : (m.answer c).2 = m' := congrArg Prod.snd answered
  exact made ▸ .call c allowed

/-- What is stored for the resource is this lease: its version, its length, and when it was taken in
whole milliseconds. -/
def Current (index : String) (lease : Lease) (m : Memory) : Prop :=
  ∃ stored, m.document? index lease.resource = some stored ∧ stored.version = lease.version ∧
    LeaseDocument.fromJson? (.ofValue stored.source) =
      some ⟨lease.resource, lease.takenAt.instant, lease.durationSecs⟩

/-- No document of the store has the version of the lease. -/
def Lost (lease : Lease) (m : Memory) : Prop :=
  ∀ i id stored, m.document? i id = some stored → stored.version ≠ lease.version

/-- What is known of a lease from when it has been written on: its version was given out for it, and
its index takes writes. -/
structure Known (index : String) (lease : Lease) (m : Memory) : Prop where
  given : lease.version.seqNo ≤ m.lastSeqNo
  writable : m.isBlocked index = false
  written : ∀ i id stored, m.document? i id = some stored → stored.version = lease.version →
    i = index ∧ id = lease.resource ∧ stored.source = lease.document.toJson

theorem Current.version_eq (current : Current index lease m) :
    ∃ stored, m.document? index lease.resource = some stored ∧ stored.version = lease.version :=
  let ⟨stored, there, version, _⟩ := current
  ⟨stored, there, version⟩

/-- A lease that has been written is stored or lost. -/
theorem Known.current_or_lost (known : Known index lease m) : Current index lease m ∨ Lost lease m := by
  by_cases lost : Lost lease m
  · exact .inr lost
  left
  simp only [Lost, Classical.not_forall, Classical.not_not] at lost
  obtain ⟨i, id, stored, there, version⟩ := lost
  obtain ⟨rfl, rfl, source⟩ := known.written i id stored there version
  refine ⟨stored, there, version, ?_⟩
  rw [source, LeaseDocument.fromJson?_toJson]
  rfl

theorem Known.moves (known : Known index lease m) (moves : Moves index m m') :
    Known index lease m' := by
  cases moves with
  | faulty => exact ⟨known.given, known.writable, known.written⟩
  | call c allowed =>
    have change := Memory.change_answer m c
    refine ⟨Nat.le_trans known.given change.lastSeqNo_le,
      Memory.isBlocked_answer allowed known.writable, ?_⟩
    intro i id stored there version
    rcases change.document? there with old | ⟨fresh, -⟩
    · exact known.written i id stored old version
    · exact absurd known.given (Nat.not_le_of_lt (version ▸ fresh))

/-- No write brings the version of a lost lease back. -/
theorem Lost.moves (lost : Lost lease m) (known : Known index lease m) (moves : Moves index m m') :
    Lost lease m' := by
  cases moves with
  | faulty => exact lost
  | call c =>
    intro i id stored there version
    rcases (Memory.change_answer m c).document? there with old | ⟨fresh, -⟩
    · exact lost i id stored old version
    · exact absurd known.given (Nat.not_le_of_lt (version ▸ fresh))

theorem Known.evolves (known : Known index lease m) (evolves : Evolves index m m') :
    Known index lease m' := by
  induction evolves with
  | refl => exact known
  | tail _ moves ih => exact ih.moves moves

theorem Lost.evolves (lost : Lost lease m) (known : Known index lease m)
    (evolves : Evolves index m m') : Lost lease m' := by
  induction evolves with
  | refl => exact lost
  | tail before moves ih => exact ih.moves (known.evolves before) moves

theorem Known.write (numbered : m.Numbered) (writable : m.isBlocked index = false) (lease : Lease)
    (fresh : lease.version = Memory.version (m.lastSeqNo + 1)) :
    Known index lease (m.write index lease.resource lease.document.toJson) := by
  refine ⟨?_, (Memory.isBlocked_write _ _ _ _ _).trans writable, ?_⟩
  · rw [fresh]
    exact Nat.le_refl _
  intro i id stored there version
  have newest : ¬m.document? i id = some stored := by
    intro old
    apply absurd (numbered i id stored old)
    rw [version, fresh]
    exact Nat.not_succ_le_self _
  by_cases here : i = index
  · subst here
    by_cases same : id = lease.resource
    · subst same
      rw [Memory.document?_write_self] at there
      obtain rfl := Option.some.inj there
      exact ⟨rfl, rfl, rfl⟩
    · rw [Memory.document?_write_of_ne _ same] at there
      exact absurd there newest
  · rw [Memory.document?, Memory.find?_write_of_ne _ here] at there
    exact absurd there newest

theorem Current.write (m : Memory) (index : String) (lease : Lease)
    (fresh : lease.version = Memory.version (m.lastSeqNo + 1)) :
    Current index lease (m.write index lease.resource lease.document.toJson) := by
  refine ⟨_, Memory.document?_write_self _ _ _ _, fresh.symm, ?_⟩
  exact LeaseDocument.fromJson?_toJson lease.document

/-- An operation that ends with a lease leaves it written. -/
def Has (index : String) : Except Failure (Option Lease) → Memory → Prop
  | .ok (some lease), m => Known index lease m
  | _, _ => True

private theorem asks_ensureIndex (service : LeaseService) :
    service.ensureIndex.Asks fun r => ∀ c, r = .store c → ∀ i update, c ≠ .updateSettings i update := by
  refine ⟨nofun, fun ready => ?_⟩
  cases ready with
  | true => trivial
  | false =>
    refine ⟨fun c same i update => ?_, fun made => ?_⟩
    · cases same
      exact nofun
    · have marks : (Program.request (.markLeaseIndexReady service.id)).Asks fun r =>
          ∀ c, r = .store c → ∀ i update, c ≠ .updateSettings i update :=
        ⟨nofun, fun _ => trivial⟩
      match made with
      | .ok () => exact marks
      | .error (.alreadyExists _) => exact marks
      | .error (.indexNotFound _) | .error (.documentNotFound ..) | .error (.versionConflict ..)
      | .error (.transport _) | .error (.backend _) => trivial

private theorem along_ensureIndex (service : LeaseService) (numbered : m.Numbered) :
    Along (exchange allows) (Evolves index) (Evolves index) (fun _ m' => m'.Numbered)
      service.ensureIndex m := by
  refine (asks_ensureIndex service).keeping Memory.Numbered ?_
    (fun _ _ evolves => evolves.numbered) numbered
  intro r m a m' quiet numbered answered
  cases r with
  | store c =>
    have moves : Moves index m m' := .of_answer answered fun update => quiet c rfl index update
    exact ⟨.single moves, moves.numbered numbered⟩
  | _ =>
    obtain ⟨-, rfl⟩ := answered
    exact ⟨.refl, numbered⟩

private theorem along_putDocument (lease : Lease) {condition : Store.WriteCondition}
    {next : Except Store.Error Store.Version → Program (Option Lease)} (numbered : m.Numbered)
    (taken : ∀ version, next (.ok version) = done (some { lease with version }))
    (refused : ∀ e m', Evolves index m m' →
      Along (exchange allows) (Evolves index) (Evolves index) (Has index) (next (.error e)) m') :
    Along (exchange allows) (Evolves index) (Evolves index) (Has index)
      (ask (.store (.putDocument index lease.resource lease.document.toJson condition)) next) m := by
  intro t evolves a u answered
  refine ⟨.single (.of_answer answered nofun), ?_⟩
  rcases Memory.putDocument_cases answered with ⟨version, rfl, written⟩ | ⟨e, rfl, -, rfl⟩
  · obtain ⟨-, writable, rfl, rfl⟩ := Memory.putDocument_eq_ok_iff.mp written
    rw [taken]
    exact Known.write (evolves.numbered numbered) writable { lease with version := _ } rfl
  · exact refused e u evolves

private theorem condition_ends (now : Reading) (found : Option Store.Document) :
    (∃ e, LeaseService.condition now found = .fail e) ∨ LeaseService.condition now found = .done none ∨
      ∃ condition, LeaseService.condition now found = .done (some condition) := by
  cases found with
  | none => exact .inr (.inr ⟨.create, rfl⟩)
  | some found =>
    exact (LeaseService.condition_cases now found).imp_right (.imp_right fun ⟨_, _, _, same⟩ => ⟨_, same⟩)

theorem along_acquire (service : LeaseService) (resource : String) (durationSecs : UInt64)
    (numbered : m.Numbered) :
    Along (exchange allows) (Evolves service.index) (Evolves service.index) (Has service.index)
      (service.acquire resource durationSecs) m := by
  refine along_bind_iff.mpr ((along_ensureIndex service numbered).weaken fun result t numbered => ?_)
  match result with
  | .error _ => trivial
  | .ok () =>
  rintro t evolves (now : Reading) _ ⟨-, rfl⟩
  have numbered := evolves.numbered numbered
  refine ⟨.refl, ?_⟩
  intro u evolves found v answered
  have numbered := evolves.numbered numbered
  obtain ⟨rfl, rfl⟩ := Prod.mk.inj answered
  refine ⟨.refl, ?_⟩
  show Along _ _ _ _
    ((LeaseService.condition now (u.getDocument service.index resource)).bind _) u
  rcases condition_ends now (u.getDocument service.index resource) with
    ⟨e, same⟩ | same | ⟨condition, same⟩ <;> rw [same]
  · trivial
  · trivial
  · exact along_putDocument ⟨resource, now, durationSecs, default⟩ numbered (fun _ => rfl)
      fun e _ _ => by cases e <;> trivial

theorem along_renew (service : LeaseService) (numbered : m.Numbered)
    (known : Known service.index lease m) :
    Along (exchange allows) (Evolves service.index) (Evolves service.index) (Has service.index)
      ((service.renew lease).bind fun renewed => done (some renewed)) m := by
  rintro _ evolves (now : Reading) t ⟨-, rfl⟩
  refine ⟨.refl, ?_⟩
  have known := known.evolves evolves
  show Along _ _ _ _ (((ofTime (lease.takenAt.plus service.renewAfter)).bind _).bind _) t
  cases lease.takenAt.plus service.renewAfter with
  | error => trivial
  | ok due =>
  by_cases young : now < due
  · simp only [ofTime, bind_done, young, if_true]
    exact known
  · simp only [ofTime, bind_done, young, if_false]
    refine along_putDocument { lease with takenAt := now } (evolves.numbered numbered)
      (fun _ => rfl) fun e u later => ?_
    have known := known.evolves later
    cases e <;> first | exact known | trivial

theorem along_release (service : LeaseService) (m : Memory) :
    Along (exchange allows) (Evolves service.index) (Evolves service.index) (Has service.index)
      ((service.release lease).bind fun _ => done none) m := by
  intro t _ a u answered
  refine ⟨.single (.of_answer answered nofun), ?_⟩
  match a with
  | .ok () => trivial
  | .error e => cases e <;> trivial

/-- Nothing that the service does with the lease changes anything, and its holder goes on as if it
did. -/
structure Inert (service : LeaseService) (lease : Lease) (m : Memory) : Prop where
  renew : ∀ due allows, lease.takenAt.plus service.renewAfter = .ok due →
    Along (exchange allows) (Evolves service.index) Eq (fun result _ => result = .ok lease)
      (service.renew lease) m
  release : ∀ allows,
    Along (exchange allows) (Evolves service.index) Eq (fun result _ => result = .ok ())
      (service.release lease) m

/-- What others do and leave a stored lease alone. -/
def Spares (index : String) (lease : Lease) (m m' : Memory) : Prop :=
  Evolves index m m' ∧ (Current index lease m → Current index lease m')

/-- The service does with the lease what it is there for: it renews it from when it is due, and leaves
it alone before; and it gives it back. The document of the lease is all that changes. -/
structure Effective (service : LeaseService) (lease : Lease) (m : Memory) : Prop where
  young : ∀ due now allows, lease.takenAt.plus service.renewAfter = .ok due → now < due →
    (∀ t, allows .now t → t = now) →
    Along (exchange allows) (Spares service.index lease) Eq (fun result _ => result = .ok lease)
      (service.renew lease) m
  due : ∀ due now allows, lease.takenAt.plus service.renewAfter = .ok due → due ≤ now →
    (∀ t, allows .now t → t = now) →
    Along (exchange allows) (Spares service.index lease)
      (fun m m' => m.DocumentChange service.index lease.resource m')
      (fun result m' => ∃ version, result = .ok { lease with takenAt := now, version } ∧
        version ≠ lease.version ∧ Current service.index { lease with takenAt := now, version } m')
      (service.renew lease) m
  release : ∀ allows,
    Along (exchange allows) (Spares service.index lease)
      (fun m m' => m.DocumentChange service.index lease.resource m')
      (fun result m' => result = .ok () ∧ m'.document? service.index lease.resource = none)
      (service.release lease) m

private theorem along_renew_young {service : LeaseService} {due now : Reading}
    {others : Memory → Memory → Prop} (sum : lease.takenAt.plus service.renewAfter = .ok due)
    (young : now < due) (told : ∀ t, allows .now t → t = now) :
    Along (exchange allows) others Eq (fun result _ => result = .ok lease) (service.renew lease) m := by
  rintro _ _ _ t ⟨allowed, rfl⟩
  obtain rfl := told _ allowed
  refine ⟨rfl, ?_⟩
  show Along _ _ _ _ ((ofTime (lease.takenAt.plus service.renewAfter)).bind _) t
  rw [sum]
  simp only [ofTime, bind_done, young, if_true]
  rfl

/-- A lost lease is neither renewed nor given back. -/
theorem Lost.inert {service : LeaseService} (lost : Lost lease m)
    (known : Known service.index lease m) : Inert service lease m := by
  have missing {t : Memory} (evolves : Evolves service.index m t) :
      (t.document? service.index lease.resource).map (·.version) ≠ some lease.version := by
    intro there
    obtain ⟨stored, there, version⟩ := Option.map_eq_some_iff.mp there
    exact lost.evolves known evolves _ _ _ there version
  constructor
  · rintro due allows sum _ evolves (now : Reading) t ⟨-, rfl⟩
    refine ⟨rfl, ?_⟩
    show Along _ _ _ _ ((ofTime (lease.takenAt.plus service.renewAfter)).bind _) t
    rw [sum]
    by_cases young : now < due
    · simp only [ofTime, bind_done, young, if_true]
      rfl
    simp only [ofTime, bind_done, young, if_false]
    intro u later a v answered
    have refusal : Memory.refusal? service.index lease.resource
        ((u.document? service.index lease.resource).map (·.version)) (.ifVersion lease.version) =
          some (.versionConflict service.index lease.resource) :=
      if_neg (missing (evolves.trans later))
    rcases Memory.putDocument_cases answered with ⟨version, rfl, written⟩ | ⟨e, rfl, refused, rfl⟩
    · cases refusal.symm.trans (Memory.putDocument_eq_ok_iff.mp written).1
    · refine ⟨rfl, ?_⟩
      rcases Memory.putDocument_eq_error_iff.mp refused with conflict | ⟨accepted, -, -⟩
      · obtain rfl := Option.some.inj (refusal.symm.trans conflict)
        rfl
      · cases refusal.symm.trans accepted
  · intro allows t evolves a u answered
    rcases Memory.changed_cases answered with ⟨rfl, deleted⟩ | ⟨e, rfl, refused, rfl⟩
    · obtain ⟨found, stored, present, inside, current, -⟩ := Memory.deleteDocument_eq_ok_iff.mp deleted
      apply absurd _ (missing evolves)
      simp only [Memory.document?, present, Option.bind_some, inside, Option.map_some,
        Option.some.injEq]
      simpa [eq_comm] using current
    · refine ⟨rfl, ?_⟩
      rcases Memory.deleteDocument_eq_error_iff.mp refused with ⟨-, rfl⟩ | ⟨_, -, -, rfl⟩ <;> rfl

/-- The stored lease is renewed when it is due, and it is given back. -/
theorem Current.effective {service : LeaseService} (current : Current service.index lease m)
    (known : Known service.index lease m) : Effective service lease m := by
  constructor
  · intro due now allows sum young told
    exact along_renew_young sum young told
  · rintro due now allows sum old told _ spares _ t ⟨allowed, rfl⟩
    have late : ¬now < due := Int.not_lt.mpr old
    obtain rfl := told _ allowed
    refine ⟨.refl _ _ _, ?_⟩
    show Along _ _ _ _ ((ofTime (lease.takenAt.plus service.renewAfter)).bind _) t
    rw [sum]
    simp only [ofTime, bind_done, late, if_false]
    intro u later a v answered
    have known := (known.evolves spares.1).evolves later.1
    obtain ⟨stored, there, version⟩ := (later.2 (spares.2 current)).version_eq
    have accepted : Memory.refusal? service.index lease.resource
        ((u.document? service.index lease.resource).map (·.version)) (.ifVersion lease.version) =
          none := by
      rw [there, Option.map_some, version]
      exact if_pos rfl
    rcases Memory.putDocument_cases answered with ⟨version, rfl, written⟩ | ⟨e, rfl, refused, rfl⟩
    · obtain ⟨-, -, rfl, rfl⟩ := Memory.putDocument_eq_ok_iff.mp written
      refine ⟨Memory.documentChange_write _ _ _ _, _, rfl, ?_, ?_⟩
      · intro same
        apply absurd known.given
        rw [← same]
        exact Nat.not_succ_le_self _
      · exact Current.write u service.index { lease with takenAt := _, version := _ } rfl
    · rcases Memory.putDocument_eq_error_iff.mp refused with conflict | ⟨-, closed, -⟩
      · cases accepted.symm.trans conflict
      · cases closed.symm.trans known.writable
  · intro allows t spares a u answered
    obtain ⟨stored, there, version⟩ := (spares.2 current).version_eq
    rcases Memory.changed_cases answered with ⟨rfl, deleted⟩ | ⟨e, rfl, refused, rfl⟩
    · refine ⟨Memory.documentChange_delete deleted, rfl, ?_⟩
      simpa using Memory.document?_deleteDocument deleted service.index lease.resource
    · rcases Memory.deleteDocument_eq_error_iff.mp refused with
        ⟨missing, -⟩ | ⟨stored', there', other, -⟩
      · cases missing.symm.trans there
      · obtain rfl := Option.some.inj (there.symm.trans there')
        simp [version] at other

/-- A store and the operations of its clients. Operations stay when they have ended; then they have
the lease that the client has got, if it has got one. -/
structure System where
  store : Memory
  operations : List (Program (Option Lease))

/-- A client has got this lease from an operation. -/
def System.Owns (s : System) (lease : Lease) : Prop := done (some lease) ∈ s.operations

/-- What can happen next: a client begins an operation with a service of its own, one operation under
way gets one answer, and others do something to the store. Any time of day may be told. -/
inductive Step (index : String) : System → System → Prop where
  | acquire (service : LeaseService) (uses : service.index = index) (resource : String)
      (durationSecs : UInt64) :
      Step index ⟨store, operations⟩ ⟨store, service.acquire resource durationSecs :: operations⟩
  | renew (service : LeaseService) (uses : service.index = index)
      (owned : System.Owns ⟨store, operations⟩ held) :
      Step index ⟨store, operations⟩
        ⟨store, ((service.renew held).bind fun renewed => done (some renewed)) :: operations⟩
  | release (service : LeaseService) (uses : service.index = index)
      (owned : System.Owns ⟨store, operations⟩ held) :
      Step index ⟨store, operations⟩
        ⟨store, ((service.release held).bind fun _ => done none) :: operations⟩
  | exchange (ahead behind : List (Program (Option Lease)))
      (answered : exchange (fun _ _ => True) r store a store') :
      Step index ⟨store, ahead ++ ask r next :: behind⟩ ⟨store', ahead ++ next a :: behind⟩
  | others (moves : Moves index store store') : Step index ⟨store, operations⟩ ⟨store', operations⟩

/-- The systems that come of a store without any operations. -/
def Reachable (index : String) (store : Memory) : System → Prop :=
  Relation.ReflTransGen (Step index) ⟨store, []⟩

/-- The versions of the store have been given out, and every lease that an operation ends with is
known. -/
structure System.Sound (index : String) (s : System) : Prop where
  numbered : s.store.Numbered
  operations : ∀ p ∈ s.operations, Along (Handles.exchange fun _ _ => True) (Evolves index)
    (Evolves index) (Has index) p s.store

theorem Has.evolves {result : Except Failure (Option Lease)} (has : Has index result m)
    (evolves : Evolves index m m') : Has index result m' := by
  match result with
  | .ok (some lease) => exact Known.evolves has evolves
  | .ok none | .error _ => trivial

private theorem System.Sound.evolves {operations : List (Program (Option Lease))}
    (sound : System.Sound index ⟨m, operations⟩) (evolves : Evolves index m m') :
    System.Sound index ⟨m', operations⟩ :=
  ⟨evolves.numbered sound.numbered, fun p member => (sound.operations p member).after
    (fun _ _ _ => .trans) (fun _ _ _ => Has.evolves) evolves⟩

private theorem System.Sound.begun {operations : List (Program (Option Lease))}
    {p : Program (Option Lease)} (sound : System.Sound index ⟨m, operations⟩)
    (along : Along (Handles.exchange fun _ _ => True) (Evolves index) (Evolves index) (Has index) p m) :
    System.Sound index ⟨m, p :: operations⟩ :=
  ⟨sound.numbered, List.forall_mem_cons.mpr ⟨along, sound.operations⟩⟩

theorem Step.sound {s s' : System} (step : Step index s s') (sound : s.Sound index) :
    s'.Sound index := by
  cases step with
  | acquire service uses resource durationSecs =>
    subst uses
    exact sound.begun (along_acquire service resource durationSecs sound.numbered)
  | renew service uses owned =>
    subst uses
    exact sound.begun (along_renew service sound.numbered (sound.operations _ owned))
  | release service uses =>
    subst uses
    exact sound.begun (along_release service _)
  | exchange ahead behind answered =>
    obtain ⟨evolves, along⟩ := sound.operations _ (List.mem_append_right _ List.mem_cons_self) _
      .refl _ _ answered
    have kept := sound.evolves evolves
    refine ⟨kept.numbered, fun p member => ?_⟩
    rcases List.mem_append.mp member with first | second
    · exact kept.operations p (List.mem_append_left _ first)
    · rcases List.mem_cons.mp second with rfl | second
      · exact along
      · exact kept.operations p (List.mem_append_right _ (List.mem_cons_of_mem _ second))
  | others moves => exact sound.evolves (.single moves)

theorem Reachable.sound {store : Memory} {s : System} (made : store.Made)
    (reached : Reachable index store s) : s.Sound index := by
  induction reached with
  | refl => exact ⟨made.numbered, by simp⟩
  | tail _ step ih => exact step.sound ih

theorem Step.evolves {s s' : System} (step : Step index s s') (sound : s.Sound index) :
    Evolves index s.store s'.store := by
  cases step with
  | exchange ahead behind answered =>
    exact (sound.operations _ (List.mem_append_right _ List.mem_cons_self) _ .refl _ _ answered).1
  | others moves => exact .single moves
  | acquire | renew | release => exact .refl

theorem Lost.later {s s' : System} (lost : Lost lease s.store) (known : Known index lease s.store)
    (sound : s.Sound index) (steps : Relation.ReflTransGen (Step index) s s') :
    Lost lease s'.store ∧ Known index lease s'.store := by
  have kept : s'.Sound index ∧ Evolves index s.store s'.store := by
    induction steps with
    | refl => exact ⟨sound, .refl⟩
    | tail _ step ih => exact ⟨step.sound ih.1, ih.2.trans (step.evolves ih.1)⟩
  exact ⟨lost.evolves known kept.2, known.evolves kept.2⟩

/-- Whatever clients do, a handle that one of them has got is the stored lease and does what it is
for, or it is lost and inert from then on. -/
theorem handle_effective_or_inert {store : Memory} {s : System} (made : store.Made)
    (reached : Reachable index store s) (owned : s.Owns lease) :
    (Current index lease s.store ∧
      ∀ service : LeaseService, service.index = index → Effective service lease s.store) ∨
    ∀ s', Relation.ReflTransGen (Step index) s s' → Lost lease s'.store ∧
      ∀ service : LeaseService, service.index = index → Inert service lease s'.store := by
  have sound := reached.sound made
  have known : Known index lease s.store := sound.operations _ owned
  rcases known.current_or_lost with current | lost
  · left
    refine ⟨current, ?_⟩
    rintro service rfl
    exact current.effective known
  · right
    intro s' steps
    obtain ⟨lost, known⟩ := lost.later known sound steps
    refine ⟨lost, ?_⟩
    rintro service rfl
    exact lost.inert known

theorem reaches_steps {p q : Program (Option Lease)} {operations : List (Program (Option Lease))}
    (way : Reaches (Handles.exchange fun _ _ => True) p m q m') :
    Relation.ReflTransGen (Step index) ⟨m, p :: operations⟩ ⟨m', q :: operations⟩ := by
  induction way with
  | here => exact .refl
  | asked answered _ ih => exact .head (.exchange [] operations answered) ih

/-- One way of answering an operation: at this time, by a service that has not looked for its index
yet. -/
private def answered (now : Reading) : (r : Request) → Memory → r.Answer × Memory
  | .store c, m => m.answer c
  | .now, m => (now, m)
  | .leaseIndexReady _, m => (false, m)
  | .http _, m => (none, m)
  | .feedFor _, m => (.ok none, m)
  | .file _, m => (.directory, m)
  | .stopwatch, m | .rings, m => ((0 : Nat), m)
  | .sleep _, m | .turn, m | .renewLease, m | .markLeaseIndexReady _, m => ((), m)

private theorem alone_steps (now : Reading) {p : Program (Option Lease)}
    {operations : List (Program (Option Lease))} {lease : Option Lease}
    (ends : (p.run (answered now) m).1 = .ok lease) :
    Relation.ReflTransGen (Step index) ⟨m, p :: operations⟩
      ⟨(p.run (answered now) m).2, done lease :: operations⟩ := by
  have allowed : ∀ r m, Handles.exchange (fun _ _ => True) r m (answered now r m).1
      (answered now r m).2 := by
    intro r m
    cases r with
    | store c => rfl
    | _ => exact ⟨trivial, rfl⟩
  have way := ends_run allowed p m
  rw [ends] at way
  exact reaches_steps way

private def service : LeaseService := ⟨0, ".locks", ⟨150000, by decide⟩⟩

private def start : Reading := ⟨.epoch, 500000, by decide⟩

private def expiry : Reading := .whole ⟨300001, by decide⟩

private def first : Lease := ⟨"job", start, 300, ⟨1, 1⟩⟩

private def second : Lease := ⟨"job", expiry, 300, ⟨2, 1⟩⟩

private def taken : System :=
  ⟨((service.acquire "job" 300).run (answered start) .empty).2, [done (some first)]⟩

private theorem takes (m : Memory) (operations : List (Program (Option Lease))) :
    Step ".locks" ⟨m, operations⟩ ⟨m, service.acquire "job" 300 :: operations⟩ :=
  .acquire service rfl "job" 300

private theorem reachable_taken : Reachable ".locks" .empty taken :=
  .head (takes .empty []) (alone_steps start (by rfl))

/-- A lease that someone else has taken after it was over is lost and inert from then on. -/
theorem handle_inert_taken_over : ∃ s, Reachable ".locks" .empty s ∧ s.Owns first ∧
    ∀ s', Relation.ReflTransGen (Step ".locks") s s' → Lost first s'.store ∧
      ∀ service : LeaseService, service.index = ".locks" → Inert service first s'.store := by
  have reached : Reachable ".locks" .empty ⟨_, [done (some second), done (some first)]⟩ :=
    (reachable_taken.tail (takes _ _)).trans (alone_steps expiry (by rfl))
  have owned (m : Memory) : System.Owns ⟨m, [done (some second), done (some first)]⟩ first :=
    List.mem_cons_of_mem _ List.mem_cons_self
  refine ⟨_, reached, owned _, (handle_effective_or_inert .empty reached (owned _)).resolve_left ?_⟩
  rintro ⟨current, -⟩
  obtain ⟨stored, there, version⟩ := current.version_eq
  obtain rfl := Option.some.inj there
  exact absurd version (by decide +kernel)

/-- A handle whose version is the stored one knows the time when it was taken better than the document
does. -/
theorem handle_finer_than_document : Reachable ".locks" .empty taken ∧ taken.Owns first ∧
    ∃ stored document, taken.store.document? ".locks" "job" = some stored ∧
      stored.version = first.version ∧
        LeaseDocument.fromJson? (.ofValue stored.source) = some document ∧
          .whole document.takenAt ≠ first.takenAt :=
  ⟨reachable_taken, List.mem_cons_self, _, first.document, rfl, rfl,
    LeaseDocument.fromJson?_toJson first.document, by decide +kernel⟩

end IndicatorFeeds.Handles

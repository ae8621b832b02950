import IndicatorFeeds.Proofs.Rotation.Moment

namespace IndicatorFeeds

open Store (Memory MemoryIndex Call)
open Program

variable {allows : (r : Request) → r.Answer → Prop} {own : Moment → Moment → Prop}

private theorem put_renewed {s : LeaseService} {lease : Lease} {source : Json.Value} {x y : Moment}
    {a : Except Store.Error Store.Version} (now : Reading)
    (answered : Moment.surroundings allows (.store (.putDocument s.index lease.resource source
      (.ifVersion lease.version))) x a y) :
    (∃ version, a = .ok version ∧
      s.Renewed (x, lease) (y, { lease with takenAt := now, version })) ∨
      (∃ e, a = .error e) ∧ y = x := by
  obtain ⟨store, answer, rfl⟩ := answered
  rcases Memory.putDocument_cases answer with ⟨version, rfl, written⟩ | ⟨e, rfl, -, rfl⟩
  · obtain ⟨accepted, -, rfl, rfl⟩ := Memory.putDocument_eq_ok_iff.mp written
    refine .inl ⟨_, rfl, .inr ⟨source, ?_, rfl, fun i other => ?_, rfl, rfl⟩⟩
    · simpa [Memory.refusal?] using accepted
    · exact (congrArg (x.written i ++ ·) (if_neg other.symm)).trans (List.append_nil _)
  · exact .inr ⟨⟨e, rfl⟩, x.after_error _ e⟩

/-- A renewal that is due faults only if the time after which it is due is no instant. It takes the
lease at the time of the renewal, or leaves it as it is. -/
theorem along_renewQuietly (s : LeaseService) {ends : Fault → Moment → Prop} {lease : Lease}
    (still : ∀ x, own x x) (renews : ∀ x y, s.Renewed (x, lease) y → own x y.1)
    (faults : ∀ f x, lease.takenAt.plus s.renewAfter = .error f → ends f x) (x : Moment) :
    Along (Moment.surroundings allows) Eq own (fun result y => match result with
      | .ok lease' => s.Renewed (x, lease) (y, lease') ∧
        (lease'.takenAt = lease.takenAt ∨ allows .now lease'.takenAt)
      | .error (.error _) => False
      | .error (.fault f) => ends f y) (s.renewQuietly lease) x := by
  refine along_bind_iff.mpr (along_attempt_iff.mpr ?_)
  rintro _ rfl (now : Reading) y ⟨allowed, rfl⟩
  refine ⟨still y, ?_⟩
  show Along _ _ _ _ ((ofTime (lease.takenAt.plus s.renewAfter)).bind _) y
  cases time : lease.takenAt.plus s.renewAfter with
  | error f => exact faults f y time
  | ok due =>
  by_cases young : now < due
  · simp only [ofTime, bind_done, young, if_true]
    exact ⟨.inl rfl, .inl rfl⟩
  simp only [ofTime, bind_done, young, if_false]
  rintro _ rfl a z answered
  rcases put_renewed now answered with ⟨version, rfl, renewed⟩ | ⟨⟨e, rfl⟩, rfl⟩
  · exact ⟨renews y _ renewed, renewed, .inr allowed⟩
  · refine ⟨still z, ?_⟩
    cases e <;> exact ⟨.inl rfl, .inl rfl⟩

/-- A lease service leaves all indices but its own alone. -/
def LeaseService.Spares (s : LeaseService) (request : Request) : Prop :=
  ∀ i, i ≠ s.index → request.Spares i

private theorem spares_own (s : LeaseService) {c : Call} (about : c.index = s.index) :
    s.Spares (.store c) := fun _ other => .inr (about ▸ other.symm)

private theorem spares_other (s : LeaseService) {request : Request}
    (other : ∀ c, request ≠ .store c) : s.Spares request := fun _ _ => by
  cases request with
  | store c => exact absurd rfl (other c)
  | _ => trivial

/-- A request asks nothing of the store but about the index of leases. -/
def LeaseService.Own (s : LeaseService) (request : Request) : Prop :=
  ∀ c, request = .store c → c.index = s.index

private theorem own_of_index (s : LeaseService) {c : Call} (about : c.index = s.index) :
    s.Own (.store c) := by
  rintro _ ⟨⟩
  exact about

private theorem own_ensureIndex (s : LeaseService) : s.ensureIndex.Asks s.Own := by
  refine ⟨nofun, fun ready => ?_⟩
  cases ready with
  | true => trivial
  | false =>
    refine ⟨own_of_index s rfl, fun made => ?_⟩
    have marks : (Program.request (.markLeaseIndexReady s.id)).Asks s.Own :=
      ⟨nofun, fun _ => trivial⟩
    match made with
    | .ok () => exact marks
    | .error (.alreadyExists _) => exact marks
    | .error (.indexNotFound _) | .error (.documentNotFound ..) | .error (.versionConflict ..)
    | .error (.transport _) | .error (.backend _) => trivial

theorem own_acquire (s : LeaseService) (resource : String) (durationSecs : UInt64) :
    (s.acquire resource durationSecs).Asks s.Own := by
  refine (own_ensureIndex s).bind fun _ => ⟨nofun, fun now => ?_⟩
  refine ⟨own_of_index s rfl, fun found => ?_⟩
  show ((ofStore found).bind fun found => (LeaseService.condition now found).bind _).Asks _
  refine Asks.bind (by cases found <;> trivial) fun found => Asks.bind ?_ fun condition => ?_
  · cases found with
    | none => trivial
    | some found =>
      rcases LeaseService.condition_cases now found with ⟨e, same⟩ | same | ⟨_, -, -, same⟩ <;>
        rw [same] <;> trivial
  · cases condition with
    | none => trivial
    | some condition =>
      refine ⟨own_of_index s rfl, fun a => ?_⟩
      match a with
      | .ok _ => trivial
      | .error e => cases e <;> trivial

theorem asks_acquire (s : LeaseService) (resource : String) (durationSecs : UInt64) :
    (s.acquire resource durationSecs).Asks s.Spares := by
  refine (own_acquire s resource durationSecs).mono fun request own => ?_
  cases request with
  | store c => exact spares_own s (own c rfl)
  | _ => exact spares_other s nofun

theorem asks_renewQuietly (s : LeaseService) (lease : Lease) :
    (s.renewQuietly lease).Asks s.Spares := by
  refine Asks.bind (Asks.attempt ⟨spares_other s nofun, fun (now : Reading) => ?_⟩) fun _ => trivial
  show ((ofTime (lease.takenAt.plus s.renewAfter)).bind _).Asks _
  cases lease.takenAt.plus s.renewAfter with
  | error f => trivial
  | ok due =>
  show Program.Asks _ (if now < due then _ else _)
  split
  · trivial
  · refine ⟨spares_own s rfl, fun a => ?_⟩
    match a with
    | .ok _ => trivial
    | .error e => cases e <;> trivial

theorem asks_releaseQuietly (s : LeaseService) (lease : Lease) :
    (s.releaseQuietly lease).Asks s.Spares := by
  refine Asks.bind (Asks.attempt ⟨spares_own s rfl, fun a => ?_⟩) fun _ => trivial
  match a with
  | .ok () => trivial
  | .error e => cases e <;> trivial

/-- Giving a lease back changes no index that renewals of the lease could not change. -/
theorem along_releaseQuietly {r : Runner} {i : String} {found : Option MemoryIndex}
    {docs : List Json.Value} {x : Moment} {lease : Lease} (keeps : r.Keeps i found docs (x, lease)) :
    Along (Moment.surroundings allows) Eq (fun _ _ => True)
      (fun _ y => y.store.indices.find? i = found) (r.leases.releaseQuietly lease) x := by
  refine along_bind_iff.mpr (along_attempt_iff.mpr ?_)
  rintro _ rfl a y ⟨store, answer, rfl⟩
  refine ⟨trivial, ?_⟩
  have kept : store.indices.find? i = found := by
    by_cases here : i = r.leases.index
    · have apart := keeps.apart here
      subst here
      rcases Memory.changed_cases answer with ⟨-, deleted⟩ | ⟨-, -, -, rfl⟩
      · obtain ⟨index, stored, present, there, current, -⟩ :=
          Memory.deleteDocument_eq_ok_iff.mp deleted
        have inside : found.bind (·.documents.find? lease.resource) = some stored := by
          rw [← keeps.contents, present]
          exact there
        have same : lease.version = stored.version := by simpa using current
        exact absurd same.symm (apart _ _ inside)
      · exact keeps.contents
    · have change := Memory.change_answer x.store
        (.deleteDocument r.leases.index lease.resource (some lease.version))
      rw [answer] at change
      exact (change.find?_of_ne here).trans keeps.contents
  match a with
  | .ok () => exact kept
  | .error e => cases e <;> exact kept

theorem along_releaseQuietly_others (s : LeaseService) (lease : Lease) (x : Moment) :
    Along (Moment.surroundings allows) Eq (fun _ _ => True)
      (fun _ y => ∀ i, i ≠ s.index → y.store.indices.find? i = x.store.indices.find? i)
      (s.releaseQuietly lease) x := by
  have keeps : ∀ request y a z, s.Spares request →
      (∀ i, i ≠ s.index → y.store.indices.find? i = x.store.indices.find? i) →
      Moment.surroundings allows request y a z →
      ∀ i, i ≠ s.index → z.store.indices.find? i = x.store.indices.find? i := by
    intro request y a z spares same answered i other
    exact (Moment.find?_of_spares (spares i other) answered).trans (same i other)
  exact (asks_releaseQuietly s lease).ending _ keeps fun _ _ => rfl

theorem along_releaseQuietly_ok (s : LeaseService) (lease : Lease) (x : Moment) :
    Along (Moment.surroundings allows) Eq (fun _ _ => True) (fun result _ => result = .ok ())
      (s.releaseQuietly lease) x := by
  refine along_bind_iff.mpr (along_attempt_iff.mpr fun _ _ a y _ => ⟨trivial, ?_⟩)
  match a with
  | .ok () => rfl
  | .error e => cases e <;> rfl

/-- A run under a lease: the work is done in surroundings that renew the lease, and the lease that
it ends with is given back. Besides the work only a renewal faults, if the lease was taken at a time
that cannot be renewed. -/
theorem along_withLease_or_fault (s : LeaseService) {work : Program α} {x : Moment} {lease : Lease}
    {ends : Except Failure (Except Error α) → Moment → Prop} (still : ∀ x, own x x)
    (renews : ∀ x held y, held.resource = lease.resource → s.Renewed (x, held) y → own x y.1)
    (faults : ∀ f x takenAt, takenAt = lease.takenAt ∨ allows .now takenAt →
      takenAt.plus s.renewAfter = .error f → ends (.error (.fault f)) x)
    (along : Along ((Moment.surroundings allows).held s.Renewed) Eq (fun x y => own x.1 y.1)
      (fun result x => match result with
        | .error (.fault f) => ends (.error (.fault f)) x.1
        | .ok a => Along (Moment.surroundings allows) Eq own (fun _ y => ends (.ok (.ok a)) y)
          (s.releaseQuietly x.2) x.1
        | .error (.error e) => Along (Moment.surroundings allows) Eq own
          (fun _ y => ends (.ok (.error e)) y) (s.releaseQuietly x.2) x.1) work (x, lease)) :
    Along (Moment.surroundings allows) Eq own ends (s.withLease lease work) x := by
  have back {lease : Lease} {result : Except Error α} {x : Moment}
      (released : Along (Moment.surroundings allows) Eq own (fun _ y => ends (.ok result) y)
        (s.releaseQuietly lease) x) :
      Along (Moment.surroundings allows) Eq own ends
        ((s.releaseQuietly lease).bind fun _ => done result) x := by
    refine along_bind_iff.mpr ((released.and (along_releaseQuietly_ok s lease x)).mono
      (fun _ _ => id) (fun _ _ => And.left) fun result y ended => ?_)
    obtain ⟨ended, rfl⟩ := ended
    exact ended
  let taken (held : Lease) : Prop := held.resource = lease.resource ∧
    (held.takenAt = lease.takenAt ∨ allows .now held.takenAt)
  refine along_bind_iff.mpr (Along.holding taken (fun y held ⟨owner, before⟩ => ?_) ⟨rfl, .inl rfl⟩
    (along.weaken fun result y ended => ?_))
  · have faults (f : Fault) (x : Moment) := faults f x held.takenAt before
    refine (along_renewQuietly s still (fun x y => renews x held y owner) faults y).weaken
      fun result z ended => ?_
    match result with
    | .ok lease' =>
      obtain ⟨renewed, times⟩ := ended
      exact ⟨renewed, renewed.resource_eq.trans owner,
        times.elim (fun same => before.imp same.trans (same ▸ ·)) .inr⟩
    | .error (.fault f) => exact ended
  · match result with
    | .ok a => exact back ended
    | .error (.error e) => exact back ended
    | .error (.fault f) => exact ended

theorem along_withLease (s : LeaseService) {work : Program α} {x : Moment} {lease : Lease}
    {ends : Except Failure (Except Error α) → Moment → Prop}
    (still : ∀ x, own x x) (renews : ∀ x lease y, s.Renewed (x, lease) y → own x y.1)
    (faults : ∀ f x, ends (.error (.fault f)) x)
    (along : Along ((Moment.surroundings allows).held s.Renewed) Eq (fun x y => own x.1 y.1)
      (fun result x => match result with
        | .error (.fault _) => True
        | .ok a => Along (Moment.surroundings allows) Eq own (fun _ y => ends (.ok (.ok a)) y)
          (s.releaseQuietly x.2) x.1
        | .error (.error e) => Along (Moment.surroundings allows) Eq own
          (fun _ y => ends (.ok (.error e)) y) (s.releaseQuietly x.2) x.1) work (x, lease)) :
    Along (Moment.surroundings allows) Eq own ends (s.withLease lease work) x := by
  refine along_withLease_or_fault s still (fun x lease y _ => renews x lease y)
    (fun f x _ _ _ => faults f x)
    (along.weaken fun result y ended => ?_)
  match result with
  | .ok a => exact ended
  | .error (.error e) => exact ended
  | .error (.fault f) => exact faults f y.1

end IndicatorFeeds

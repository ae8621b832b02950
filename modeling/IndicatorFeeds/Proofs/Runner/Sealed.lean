import IndicatorFeeds.Proofs.Runner.Tending

/-!
The last thing that an update and a deletion do. An update writes the record, and a deletion removes
it, with the last request of its work. A fault that ends the operation comes before that: then the
record has not been changed by an update, and is still there after a deletion.
-/

namespace IndicatorFeeds

open Store (Memory Call)
open Program Rotation

section

variable {final : Request → Prop} {service : LeaseService}

/-- Work that ends with its final request is sealed by it while its lease is renewed on a timer: the
timer does not ring once the work is done. -/
private theorem seals_holding {work : Program α} (closes : work.Closes final)
    (other : ∀ request, service.Spares request → ¬final request) (lease : Lease) :
    (service.holding lease (KeepAlive.during work)).Seals final := by
  have renews (lease : Lease) : (service.renewQuietly lease).Asks (¬final ·) :=
    (asks_renewQuietly service lease).mono other
  have rings : ¬final .rings := other _ fun _ _ => trivial
  induction work generalizing lease with
  | done => trivial
  | fail e => cases e <;> trivial
  | ask request next ih =>
    intro count
    refine ⟨?_, fun last => absurd last rings⟩
    induction count generalizing lease with
    | succ count rest => exact (renews lease).seals_bind rest
    | zero =>
      by_cases renewal : request = .renewLease
      · subst renewal
        exact (renews lease).seals_bind fun lease => ih () (closes ()).1 lease
      · show Program.Seals final (service.holding lease (.ask request _))
        rw [holding_ask service lease _ renewal]
        refine fun a => ⟨ih a (closes a).1 lease, fun last => ?_⟩
        obtain ⟨result, same⟩ := (closes a).2 last
        show Program.Safe _ (service.holding lease (KeepAlive.during (next a)))
        rw [same]
        cases result <;> trivial

private theorem safe_releaseQuietly (lease : Lease) :
    (service.releaseQuietly lease).Safe fun _ => True := by
  refine Safe.bind (Safe.attempt ⟨trivial, fun a => ?_⟩) fun _ => trivial
  match a with
  | .ok () => trivial
  | .error e => cases e <;> trivial

end

namespace Runner

variable {r : Runner} {allows : (r : Request) → r.Answer → Prop} {name : String}
  {may : String → Prop} {m : Memory} {f : Fault} {y : Moment}

/-- An operation under a lease is sealed by the final request of its work. -/
private theorem seals_underLease {final : Request → Prop} {work : Program α}
    (closes : work.Closes final) (other : ∀ request, r.leases.Spares request → ¬final request) :
    (r.underLease name work).Seals final := by
  have acquires : (r.acquireOrContend name).Asks (¬final ·) := by
    refine (Asks.bind (asks_acquire _ _ _) fun taken => ?_).mono other
    cases taken <;> trivial
  refine acquires.seals_bind fun lease => Seals.bind (Seals.bind (seals_holding closes other lease)
    fun ⟨lease, result⟩ => (safe_releaseQuietly lease).bind fun _ => ?_) safe_ofExcept
  trivial

private theorem asks_requireRecord {may : Request → Prop}
    (reads : may (.store (.getDocument r.records.index name))) :
    (r.requireRecord name).Asks may := by
  refine Asks.bind ⟨reads, fun a => ?_⟩ fun found => ?_
  · match a with
    | .error _ | .ok none => trivial
    | .ok (some found) =>
      show ((ofExcept (Job.Records.decode found)).bind _).Asks may
      exact (asks_ofExcept _).bind fun _ => trivial
  · cases found <;> trivial

private theorem asks_rescheduled {may : Request → Prop} (record : Job.Record)
    (choice : Option Job.Schedule) (now : may .now) : (rescheduled record choice).Asks may := by
  cases choice with
  | none => trivial
  | some schedule =>
    refine ⟨now, fun (reading : Reading) => ?_⟩
    show ((ofTime (record.reschedule schedule reading.instant)).bind _).Asks may
    cases record.reschedule schedule reading.instant <;> trivial

private theorem closes_update (record : Job.Record) :
    (r.records.update record).Closes (¬Request.Spares r.records.index ·) := by
  intro now
  refine ⟨fun (a : Except Store.Error Store.Version) => ?_, fun last => absurd trivial last⟩
  cases a with
  | ok version => exact ⟨trivial, fun _ => ⟨.ok _, rfl⟩⟩
  | error e => exact ⟨trivial, fun _ => ⟨.error _, rfl⟩⟩

private theorem closes_updateHeld (update : JobUpdate) :
    (r.updateHeld name update).Closes (¬Request.Spares r.records.index ·) := by
  have sparing {α : Type} {p : Program α} (asks : p.Asks (Request.Spares r.records.index)) :
      p.Asks (¬¬Request.Spares r.records.index ·) := asks.mono fun _ => not_not_intro
  refine (sparing (asks_requireRecord (Request.spares_of_isRead rfl _))).closes_bind
    fun record => ?_
  show Program.Closes _ (if record.state ≠ .available then _ else _)
  split
  · trivial
  refine (sparing (safe_feedFor trivial).asks).closes_bind fun found => ?_
  cases found with
  | none => trivial
  | some feed =>
  refine (sparing (safe_download fun _ => trivial).asks).closes_bind fun reader => ?_
  refine (asks_ofExcept _).closes_bind fun _ => ?_
  refine (sparing (asks_rescheduled record _ trivial)).closes_bind fun rescheduled => ?_
  refine (sparing (safe_withTicks rescheduled _).asks).closes_bind fun changed => ?_
  exact closes_update changed

/-- An update that a fault ends has left the records as they were. -/
theorem records_of_update_fault {update : JobUpdate} (apart : r.leases.index ≠ r.records.index)
    (ended : Ends (Moment.surroundings allows) (r.updateJob name update) (.start m)
      (.error (.fault f)) y) :
    y.store.indices.find? r.records.index = m.indices.find? r.records.index := by
  have works : (r.underLease name (r.updateHeld name update)).Seals
      (¬Request.Spares r.records.index ·) :=
    seals_underLease (closes_updateHeld update) fun _ spares => not_not_intro (spares _ apart.symm)
  have seals : (r.updateJob name update).Seals (¬Request.Spares r.records.index ·) := by
    unfold Runner.updateJob
    cases update.schedule with
    | none => exact works
    | some schedule => exact (Course.asks_checkSchedule schedule).seals_bind fun _ => works
  have keeps : ∀ request (x : Moment) a y, ¬¬request.Spares r.records.index →
      Moment.surroundings allows request x a y → True →
        x.store.indices.find? r.records.index = m.indices.find? r.records.index →
          y.store.indices.find? r.records.index = m.indices.find? r.records.index :=
    fun _ _ _ _ spares answered _ same =>
      (Moment.find?_of_spares (Classical.not_not.mp spares) answered).trans same
  exact ((seals.along (along_trivial _ _) keeps rfl).ended ended).2 f rfl

/-- The request removes the record of a job. -/
private def Removes (r : Runner) (name : String) (request : Request) : Prop :=
  ∃ expected, request = .store (.deleteDocument r.records.index name expected)

private theorem closes_deleteHeld : (r.deleteHeld name).Closes (r.Removes name) := by
  have saves (record : Job.Record) : (r.records.save record).Asks (¬r.Removes name ·) :=
    ⟨fun ⟨_, same⟩ => (by cases same), fun _ => ⟨fun ⟨_, same⟩ => (by cases same), fun _ => trivial⟩⟩
  refine (asks_requireRecord fun ⟨_, same⟩ => by cases same).closes_bind fun record => ?_
  have marks : (r.records.update { record with state := .deleting }).Asks (¬r.Removes name ·) :=
    (saves _).bind fun _ => (asks_ofStore _).bind fun _ => trivial
  refine marks.closes_bind fun marked => ?_
  have finds : (Program.feedFor marked.name).Asks (¬r.Removes name ·) :=
    (safe_feedFor fun ⟨_, same⟩ => by cases same).asks
  have lists : (r.indicesOf marked).Asks (¬r.Removes name ·) := by
    refine finds.attempt.bind fun answer => ?_
    cases answer <;> trivial
  refine lists.closes_bind fun indices => ?_
  have deletes : (deleteIndices indices).Asks (¬r.Removes name ·) :=
    (safe_deleteIndices fun _ _ ⟨_, same⟩ => by cases same).asks
  refine deletes.attempt.closes_bind fun removed => ?_
  cases removed with
  | error e =>
    exact Asks.closes_bind ((saves _).bind fun _ => trivial) fun _ => trivial
  | ok =>
    intro (a : Except Store.Error Unit)
    match a with
    | .ok () => exact ⟨trivial, fun _ => ⟨.ok (), rfl⟩⟩
    | .error e =>
      cases e <;> exact ⟨trivial, fun _ => ⟨.error _, rfl⟩⟩

/-- A deletion that a fault ends has not removed the record. -/
theorem record_of_deletion_fault (footprint : r.Footprint allows name may m)
    (present : m.document? r.records.index name ≠ none)
    (ended : Ends (Moment.surroundings allows) (r.deleteJob name) (.start m)
      (.error (.fault f)) y) :
    y.store.document? r.records.index name ≠ none := by
  have seals : (r.deleteJob name).Seals (r.Removes name) := by
    refine seals_underLease closes_deleteHeld fun request spares ⟨expected, same⟩ => ?_
    subst same
    rcases spares _ footprint.apart.symm with reads | other
    · cases reads
    · exact other rfl
  have keeps : ∀ request (x : Moment) a y, ¬r.Removes name request →
      Moment.surroundings allows request x a y → r.Confined name may (r.Erases allows name m) x y →
        x.store.document? r.records.index name ≠ none →
          y.store.document? r.records.index name ≠ none := by
    intro request x a y other answered confined there
    cases request with
    | store c =>
      obtain ⟨store, answer, rfl⟩ := answered
      obtain rfl : (x.store.answer c).2 = store := congrArg Prod.snd answer
      have others : ∀ expected, c ≠ .deleteDocument r.records.index name expected :=
        fun expected same => other ⟨expected, congrArg Request.store same⟩
      refine Memory.present_answer others there fun gone => ?_
      obtain ⟨stored, there⟩ := Option.ne_none_iff_exists'.mp there
      obtain ⟨found, there, -⟩ := Option.bind_eq_some_iff.mp there
      have kept := confined.flags _ (fun data => data.2 rfl) _ (congrArg (Option.map _) there)
      cases (congrArg (Option.map _) gone).symm.trans kept
    | _ =>
      obtain ⟨-, rfl⟩ := answered
      exact there
  exact ((seals.along (along_deleteJob footprint) keeps present).ended ended).2 f rfl

end Runner

end IndicatorFeeds

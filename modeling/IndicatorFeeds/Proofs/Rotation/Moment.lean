import IndicatorFeeds.Proofs.Lease.Holding
import IndicatorFeeds.Proofs.Store.Bulk
import IndicatorFeeds.Runner.Admin

/-!
The moments of a run that is alone with its store. Beside the store a moment has what the run has
written to each index. An index stays as it is while a run asks for other things, and while it
renews its lease: a lease is renewed by a write to the index of leases only, and there only over
the lease itself.
-/

namespace IndicatorFeeds

open Store (Memory MemoryIndex Call)
open Program

/-- The clock may show a time that is written as this instant. -/
def Tells (allows : (r : Request) → r.Answer → Prop) (t : Instant) : Prop :=
  ∃ reading, allows .now reading ∧ reading.instant = t

/-- A store, and what has been written to its indices by a run. -/
structure Moment where
  store : Memory
  written : String → List Json.Value

namespace Moment

/-- A store before a run. -/
def start (m : Memory) : Moment := ⟨m, fun _ => []⟩

/-- What a call has written to an index. -/
def additions : (c : Call) → c.Answer → String → List Json.Value
  | .bulkIndex index items, .ok _, i => if index = i then items.map (·.source) else []
  | .putDocument index _ source _, .ok _, i => if index = i then [source] else []
  | _, _, _ => []

/-- The moment after a call. -/
def after (x : Moment) (c : Call) (a : c.Answer) (store : Memory) : Moment :=
  ⟨store, fun i => x.written i ++ additions c a i⟩

private theorem after_eq_self {x : Moment} {c : Call} {a : c.Answer}
    (nothing : ∀ i, additions c a i = []) : x.after c a x.store = x := by
  simp only [after, nothing, List.append_nil]

theorem after_error (x : Moment) (c : Call) (e : Store.Error) :
    x.after c (.error e) x.store = x :=
  after_eq_self fun i => by cases c <;> rfl

theorem after_of_isRead {x : Moment} {c : Call} (reads : c.isRead) (a : c.Answer) :
    x.after c a x.store = x :=
  after_eq_self fun i => by cases c <;> first | rfl | cases reads

/-- The surroundings of a run that is alone with its store. What else it asks for may be answered
in any of some ways. -/
def surroundings (allows : (r : Request) → r.Answer → Prop) : Surroundings Moment
  | .store c, x, a, y => ∃ store, x.store.answer c = (a, store) ∧ y = x.after c a store
  | r, x, a, y => allows r a ∧ y = x

theorem eq_of_read {allows : (r : Request) → r.Answer → Prop} {c : Call} {x y : Moment}
    {a : c.Answer} (reads : c.isRead) (answered : surroundings allows (.store c) x a y) :
    y = x ∧ a = (x.store.answer c).1 := by
  obtain ⟨store, answer, rfl⟩ := answered
  obtain rfl : x.store = store :=
    (Memory.answer_of_isRead reads).symm.trans (congrArg Prod.snd answer)
  exact ⟨after_of_isRead reads a, congrArg Prod.fst answer.symm⟩

/-- A way of answering: the store answers for itself, and everything else is answered so. -/
def answeredBy (others : (r : Request) → r.Answer) (r : Request) (x : Moment) : r.Answer × Moment :=
  match r with
  | .store c => ((x.store.answer c).1, x.after c (x.store.answer c).1 (x.store.answer c).2)
  | r => (others r, x)

theorem answeredBy_allowed {allows : (r : Request) → r.Answer → Prop}
    {others : (r : Request) → r.Answer} (allowed : ∀ r, allows r (others r)) (r : Request)
    (x : Moment) : surroundings allows r x (answeredBy others r x).1 (answeredBy others r x).2 := by
  cases r with
  | store c => exact ⟨_, rfl, rfl⟩
  | _ => exact ⟨allowed _, rfl⟩

theorem ends_answered {allows : (r : Request) → r.Answer → Prop}
    {others : (r : Request) → r.Answer} (allowed : ∀ r, allows r (others r)) (p : Program α)
    (x : Moment) :
    Ends (surroundings allows) p x (p.run (answeredBy others) x).1
      (p.run (answeredBy others) x).2 := by
  exact ends_run (answeredBy_allowed allowed) p x

theorem ends_answeredBy {allows : (r : Request) → r.Answer → Prop}
    {others : (r : Request) → r.Answer} (allowed : ∀ r, allows r (others r)) (p : Program α)
    (x : Moment) {a : α} (value : (p.run (answeredBy others) x).1.toOption = some a) :
    Ends (surroundings allows) p x (.ok a) (p.run (answeredBy others) x).2 := by
  have ended := ends_answered allowed p x
  cases result : (p.run (answeredBy others) x).1 with
  | error e =>
    rw [result] at value
    cases value
  | ok b =>
    rw [result] at value ended
    obtain rfl := Option.some.inj value
    exact ended

theorem ends_answeredBy_error {allows : (r : Request) → r.Answer → Prop}
    {others : (r : Request) → r.Answer} (allowed : ∀ r, allows r (others r)) (p : Program α)
    (x : Moment) {failure : Failure} (failed : (match (p.run (answeredBy others) x).1 with
      | .ok _ => none
      | .error failure => some failure) = some failure) :
    Ends (surroundings allows) p x (.error failure) (p.run (answeredBy others) x).2 := by
  have ended := ends_answered allowed p x
  split at failed
  · cases failed
  · rename_i result
    obtain rfl := Option.some.inj failed
    rw [result] at ended
    exact ended

end Moment

/-- Requests that leave an index as it is. -/
def Request.Spares (i : String) : Request → Prop
  | .store c => c.isRead ∨ c.index ≠ i
  | _ => True

theorem Request.spares_of_isRead {c : Call} (reads : c.isRead) (i : String) :
    (store c).Spares i := .inl reads

theorem Request.spares_of_ne {i : String} {c : Call} (different : c.index ≠ i) :
    (store c).Spares i := .inr different

theorem Moment.additions_of_spares {i : String} {c : Call} (spares : (Request.store c).Spares i)
    (a : c.Answer) : additions c a i = [] := by
  rcases spares with reads | different
  · cases c <;> first | rfl | cases reads
  · cases c with
    | bulkIndex | putDocument => cases a <;> simp_all [additions, Call.index]
    | _ => rfl

/-- An index with these contents, to which so much has been written. -/
structure Moment.At (i : String) (found : Option MemoryIndex) (docs : List Json.Value) (x : Moment) :
    Prop where
  contents : x.store.indices.find? i = found
  written : x.written i = docs

theorem Moment.At.step {allows : (r : Request) → r.Answer → Prop} {i : String}
    {found : Option MemoryIndex} {docs : List Json.Value} {x y : Moment} {r : Request} {a : r.Answer}
    (there : x.At i found docs) (spares : r.Spares i) (answered : surroundings allows r x a y) :
    y.At i found docs := by
  cases r with
  | store c =>
    obtain ⟨store, answer, rfl⟩ := answered
    refine ⟨?_, ?_⟩
    · have made : (x.store.answer c).2 = store := congrArg Prod.snd answer
      show store.indices.find? i = found
      rw [← there.contents, ← made]
      rcases spares with reads | different
      · rw [Memory.answer_of_isRead reads]
      · exact (Memory.change_answer x.store c).find?_of_ne different.symm
    · have none := congrArg (x.written i ++ ·) (additions_of_spares spares a)
      exact (none.trans (List.append_nil _)).trans there.written
  | _ =>
    obtain ⟨-, rfl⟩ := answered
    exact there

theorem Moment.find?_of_spares {allows : (r : Request) → r.Answer → Prop} {i : String}
    {x y : Moment} {r : Request} {a : r.Answer} (spares : r.Spares i)
    (answered : surroundings allows r x a y) :
    y.store.indices.find? i = x.store.indices.find? i := by
  have there : x.At i (x.store.indices.find? i) (x.written i) := ⟨rfl, rfl⟩
  exact (there.step spares answered).contents

theorem Moment.grows {allows : (r : Request) → r.Answer → Prop} {x y : Moment} {r : Request}
    {a : r.Answer} (answered : surroundings allows r x a y) :
    x.store.lastSeqNo ≤ y.store.lastSeqNo := by
  cases r with
  | store c =>
    obtain ⟨store, answer, rfl⟩ := answered
    have change := Memory.change_answer x.store c
    rw [answer] at change
    exact change.lastSeqNo_le
  | _ =>
    obtain ⟨-, rfl⟩ := answered
    exact Nat.le_refl _

theorem Moment.faults_eq {allows : (r : Request) → r.Answer → Prop} {x y : Moment} {r : Request}
    {a : r.Answer} (answered : surroundings allows r x a y) : y.store.faults = x.store.faults := by
  cases r with
  | store c =>
    obtain ⟨store, answer, rfl⟩ := answered
    have change := Memory.change_answer x.store c
    rw [answer] at change
    exact change.faults
  | _ =>
    obtain ⟨-, rfl⟩ := answered
    rfl

/-- What a renewal makes of a moment and a lease: nothing, or one write over the lease. -/
def LeaseService.Renewed (s : LeaseService) (x y : Moment × Lease) : Prop :=
  y = x ∨ ∃ source,
    (x.1.store.document? s.index x.2.resource).map (·.version) = some x.2.version ∧
    y.1.store = x.1.store.write s.index x.2.resource source ∧
    (∀ i, i ≠ s.index → y.1.written i = x.1.written i) ∧
    y.2.resource = x.2.resource ∧ y.2.version = Memory.version (x.1.store.lastSeqNo + 1)

theorem LeaseService.Renewed.resource_eq {s : LeaseService} {x y : Moment × Lease}
    (renewed : s.Renewed x y) : y.2.resource = x.2.resource := by
  rcases renewed with rfl | ⟨-, -, -, -, same, -⟩
  · rfl
  · exact same

theorem Moment.At.renewed {s : LeaseService} {i : String} {found : Option MemoryIndex}
    {docs : List Json.Value} {x y : Moment × Lease} (there : x.1.At i found docs)
    (other : i ≠ s.index) (renewed : s.Renewed x y) : y.1.At i found docs := by
  rcases renewed with rfl | ⟨source, -, store, written, -, -⟩
  · exact there
  · refine ⟨?_, ?_⟩
    · rw [store, Memory.find?_write_of_ne _ other, there.contents]
    · rw [written i other, there.written]

theorem LeaseService.Renewed.find? {s : LeaseService} {i : String} {x y : Moment × Lease}
    (renewed : s.Renewed x y) (other : i ≠ s.index) :
    y.1.store.indices.find? i = x.1.store.indices.find? i := by
  have there : x.1.At i (x.1.store.indices.find? i) (x.1.written i) := ⟨rfl, rfl⟩
  exact (there.renewed other renewed).contents

namespace Runner

variable {r : Runner} {allows : (r : Request) → r.Answer → Prop} {i : String}
  {found : Option MemoryIndex} {docs : List Json.Value} {x y : Moment × Lease}

/-- The surroundings of a run that holds a lease. -/
def held (r : Runner) (allows : (r : Request) → r.Answer → Prop) : Surroundings (Moment × Lease) :=
  (Moment.surroundings allows).held r.leases.Renewed

/-- An index is none of the engine's own. -/
def IsData (r : Runner) (i : String) : Prop := i ≠ r.leases.index ∧ i ≠ r.records.index

theorem held_of_other {request : Request} {a : request.Answer}
    (answered : r.held allows request x a y) (notStore : ∀ c, request ≠ .store c)
    (notRenewal : request ≠ .renewLease) : allows request a ∧ y = x := by
  cases request with
  | store c => exact absurd rfl (notStore c)
  | renewLease => exact absurd rfl notRenewal
  | _ =>
    obtain ⟨⟨allowed, same⟩, lease⟩ := answered
    exact ⟨allowed, Prod.ext same lease⟩

theorem eq_of_held_read {c : Call} {a : c.Answer} (reads : c.isRead)
    (answered : r.held allows (.store c) x a y) : y = x ∧ a = (x.1.store.answer c).1 := by
  obtain ⟨answered, lease⟩ := answered
  obtain ⟨same, answer⟩ := Moment.eq_of_read reads answered
  exact ⟨Prod.ext same lease, answer⟩

theorem held_grows {request : Request} {a : request.Answer} (answered : r.held allows request x a y) :
    x.1.store.lastSeqNo ≤ y.1.store.lastSeqNo := by
  by_cases renews : request = .renewLease
  · subst renews
    rcases answered with rfl | ⟨source, -, store, -⟩
    · exact Nat.le_refl _
    · rw [store]
      exact Nat.le_succ _
  · exact Moment.grows ((Surroundings.held_of_ne renews).mp answered).1

theorem held_faults {request : Request} {a : request.Answer} (answered : r.held allows request x a y) :
    y.1.store.faults = x.1.store.faults := by
  by_cases renews : request = .renewLease
  · subst renews
    rcases answered with rfl | ⟨source, -, store, -⟩
    · rfl
    · rw [store]
      rfl
  · obtain ⟨answered, -⟩ := (Surroundings.held_of_ne renews).mp answered
    exact Moment.faults_eq answered

theorem at_held {request : Request} {a : request.Answer} (there : x.1.At i found docs)
    (spares : request.Spares i) (other : i ≠ r.leases.index)
    (answered : r.held allows request x a y) : y.1.At i found docs := by
  by_cases renews : request = .renewLease
  · subst renews
    exact there.renewed other answered
  · exact there.step spares ((Surroundings.held_of_ne renews).mp answered).1

theorem find?_held {request : Request} {a : request.Answer} (spares : request.Spares i)
    (other : i ≠ r.leases.index) (answered : r.held allows request x a y) :
    y.1.store.indices.find? i = x.1.store.indices.find? i := by
  have there : x.1.At i (x.1.store.indices.find? i) (x.1.written i) := ⟨rfl, rfl⟩
  exact (at_held there spares other answered).contents

/-- So much has been written to an index of data, and the version of the lease has been given
out. -/
structure Tracks (r : Runner) (i : String) (docs : List Json.Value) (x : Moment × Lease) : Prop where
  written : r.IsData i → x.1.written i = docs
  issued : x.2.version.seqNo ≤ x.1.store.lastSeqNo

/-- An index has these contents, and no renewal of the lease can change them: if it is the index of
leases, the lease is not in it. -/
structure Keeps (r : Runner) (i : String) (found : Option MemoryIndex) (docs : List Json.Value)
    (x : Moment × Lease) : Prop extends Tracks r i docs x where
  contents : x.1.store.indices.find? i = found
  apart : i = r.leases.index → ∀ id stored, found.bind (·.documents.find? id) = some stored →
    stored.version ≠ x.2.version

theorem Keeps.at (keeps : r.Keeps i found docs x) (data : r.IsData i) : x.1.At i found docs :=
  ⟨keeps.contents, keeps.written data⟩

private theorem Keeps.not_current (keeps : r.Keeps i found docs x) (here : i = r.leases.index) :
    (x.1.store.document? r.leases.index x.2.resource).map (·.version) ≠ some x.2.version := by
  subst here
  rw [Memory.document?, keeps.contents]
  cases there : found.bind (·.documents.find? x.2.resource) with
  | none => simp
  | some stored => simpa [there] using keeps.apart rfl _ _ there

theorem Tracks.renewed (tracks : r.Tracks i docs x) (renewed : r.leases.Renewed x y) :
    r.Tracks i docs y := by
  rcases renewed with rfl | ⟨source, -, store, written, -, version⟩
  · exact tracks
  · refine ⟨fun data => (written i data.1).trans (tracks.written data), ?_⟩
    rw [store, version]
    exact Nat.le_refl _

theorem Keeps.renewed (keeps : r.Keeps i found docs x) (renewed : r.leases.Renewed x y) :
    r.Keeps i found docs y := by
  refine ⟨keeps.toTracks.renewed renewed, ?_, ?_⟩ <;>
    rcases renewed with rfl | ⟨source, current, store, -, -, -⟩
  · exact keeps.contents
  · by_cases here : i = r.leases.index
    · exact absurd current (keeps.not_current here)
    · rw [store, Memory.find?_write_of_ne _ here, keeps.contents]
  · exact keeps.apart
  · exact fun here => absurd current (keeps.not_current here)

theorem kept_renewals (holds : Moment × Lease → Prop)
    (kept : ∀ x y, r.leases.Renewed x y → holds x → holds y)
    (renewals : (r.held allows).renewals x y) (start : holds x) : holds y := by
  induction renewals with
  | refl => exact start
  | tail _ renewed ih => exact kept _ _ renewed ih

theorem Tracks.renewals (tracks : r.Tracks i docs x) (renewals : (r.held allows).renewals x y) :
    r.Tracks i docs y :=
  kept_renewals (r.Tracks i docs) (fun _ _ renewed tracks => tracks.renewed renewed) renewals tracks

theorem Keeps.renewals (keeps : r.Keeps i found docs x)
    (renewals : (r.held allows).renewals x y) : r.Keeps i found docs y :=
  kept_renewals (r.Keeps i found docs) (fun _ _ renewed keeps => keeps.renewed renewed) renewals
    keeps

/-- A call adds to an index what it writes there. -/
theorem Tracks.call {c : Call} {a : c.Answer} (tracks : r.Tracks i docs x)
    (answered : r.held allows (.store c) x a y) :
    r.Tracks i (docs ++ Moment.additions c a i) y := by
  have grown := held_grows answered
  obtain ⟨⟨store, -, same⟩, lease⟩ := answered
  refine ⟨fun data => ?_, ?_⟩
  · rw [same]
    exact congrArg (· ++ Moment.additions c a i) (tracks.written data)
  · rw [lease]
    exact Nat.le_trans tracks.issued grown

theorem Tracks.call_nothing {c : Call} {a : c.Answer} (tracks : r.Tracks i docs x)
    (answered : r.held allows (.store c) x a y) (nothing : Moment.additions c a i = []) :
    r.Tracks i docs y := by
  have called := tracks.call answered
  rw [nothing, List.append_nil] at called
  exact called

/-- Only a call about an index changes it, also when the lease is renewed. -/
theorem Keeps.step {request : Request} {a : request.Answer} (keeps : r.Keeps i found docs x)
    (spares : request.Spares i) (answered : r.held allows request x a y) :
    r.Keeps i found docs y := by
  by_cases renews : request = .renewLease
  · subst renews
    exact keeps.renewed answered
  · have grown := held_grows answered
    obtain ⟨answered, lease⟩ := (Surroundings.held_of_ne renews).mp answered
    have there : Moment.At i found (x.1.written i) y.1 :=
      Moment.At.step ⟨keeps.contents, rfl⟩ spares answered
    refine ⟨⟨fun data => there.written.trans (keeps.written data), ?_⟩, there.contents, ?_⟩
    · rw [lease]
      exact Nat.le_trans keeps.issued grown
    · rw [lease]
      exact keeps.apart

end Runner

end IndicatorFeeds

import IndicatorFeeds.Proofs.Rotation.Confined

namespace IndicatorFeeds

open Store (Memory MemoryIndex Call)
open Program

/-- What may be said of a store does not depend on its leases. -/
def LeaseService.Ignores (s : LeaseService) (holds : Memory → Prop) : Prop :=
  ∀ m m', m'.faults = m.faults →
    (∀ i, i ≠ s.index → m'.indices.find? i = m.indices.find? i) → holds m → holds m'

namespace Runner

variable {r : Runner} {allows : (r : Request) → r.Answer → Prop} {name : String}
  {may : String → Prop} {writes : Option Job.Record → Prop} {x : Moment} {lease : Lease}

/-- A lease taken at some time of day cannot be renewed for this fault. -/
def Untimely (r : Runner) (allows : (r : Request) → r.Answer → Prop) (f : Fault) : Prop :=
  ∃ t, allows .now t ∧ t.plus r.leases.renewAfter = .error f

/-- A run under way is aborted by this fault: its lease cannot be renewed, or there is no room for a
batch. -/
def Aborting (r : Runner) (allows : (r : Request) → r.Answer → Prop) (f : Fault) : Prop :=
  r.Untimely allows f ∨ r.Crowded f

/-- How work ends that may be followed by the return of its lease. -/
def Worked (ends : Except Error α → Memory → Prop) (faulty : Fault → Prop) :
    Except Failure α → Moment × Lease → Prop
  | .ok a, y => ends (.ok a) y.1.store
  | .error (.error e), y => ends (.error e) y.1.store
  | .error (.fault f), _ => faulty f

/-- How work ends whose lease has been given back. -/
def Returned (r : Runner) (allows : (r : Request) → r.Answer → Prop) (name : String)
    (ends : Except Error α → Memory → Prop) (faulty : Fault → Prop) :
    Except Failure (Except Error α) → Moment → Prop
  | .ok result, y => ends result y.store ∧ y.store.document? r.leases.index name = none
  | .error (.error _), _ => False
  | .error (.fault f), _ => faulty f ∨ r.Untimely allows f

theorem along_withLease_confined {work : Program α} {ends : Except Error α → Memory → Prop}
    {faulty : Fault → Prop} (apart : r.leases.index ≠ r.records.index)
    (holds : r.leases.Holds (x, lease)) (owned : lease.resource = name)
    (taken : allows .now lease.takenAt) (ignores : ∀ result, r.leases.Ignores (ends result))
    (along : Along (r.held allows) Eq (r.Runs name may writes) (Worked ends faulty) work (x, lease)) :
    Along (Moment.surroundings allows) Eq (r.Confined name may writes)
      (r.Returned allows name ends faulty) (r.leases.withLease lease work) x := by
  have kept (y z : Moment × Lease) (before : y.2.resource = name ∧ r.leases.Holds y)
      (runs : r.Runs name may writes y z) : z.2.resource = name ∧ r.leases.Holds z :=
    have ⟨_, owned, holds⟩ := runs before.1
    ⟨owned, holds before.2⟩
  have released {y : Moment × Lease} (result : Except Error α) (own : y.2.resource = name)
      (there : r.leases.Holds y) (ended : ends result y.1.store) :
      Along (Moment.surroundings allows) Eq (r.Confined name may writes)
        (fun _ z => ends result z.store ∧ z.store.document? r.leases.index name = none)
        (r.leases.releaseQuietly y.2) y.1 := by
    have gives : Along (Moment.surroundings allows) _ _ _ _ _ :=
      LeaseService.along_releaseQuietly_held r.leases there
    rw [own] at gives
    refine (gives.moved (fun y => .refl y) fun _ _ _ => .trans).mono (fun _ _ => id)
      (fun _ _ => .of_changesOnly apart) fun _ z ⟨changes, _, gone⟩ => ?_
    exact ⟨ignores result _ _ changes.faults changes.indices ended, gone⟩
  refine along_withLease_or_fault r.leases .refl (fun y held z same renewed => ?_)
    (fun f y takenAt times fault => ?_) ((along.keeping ⟨owned, holds⟩ kept).mono (fun _ _ => id)
      (fun y z moved => (moved.2 moved.1.1).1) fun result y ended => ?_)
  · exact ((Runs.of_renewed apart renewed) (same.trans owned)).1
  · exact .inr ⟨takenAt, times.elim (fun same => same ▸ taken) id, fault⟩
  · obtain ⟨⟨own, there⟩, ended⟩ := ended
    match result with
    | .ok a => exact released (.ok a) own there ended
    | .error (.error e) => exact released (.error e) own there ended
    | .error (.fault f) => exact .inl ended

end Runner

/-- What does not depend on leases is kept when a lease is renewed. -/
theorem LeaseService.Ignores.renewals {r : Runner} {allows : (r : Request) → r.Answer → Prop}
    {holds : Memory → Prop} {x y : Moment × Lease} (ignores : r.leases.Ignores holds)
    (renewals : (r.held allows).renewals x y) (start : holds x.1.store) : holds y.1.store :=
  Runner.kept_renewals (fun x => holds x.1.store) (fun _ _ renewed there =>
    ignores _ _ renewed.changesOnly.faults renewed.changesOnly.indices there) renewals start

end IndicatorFeeds

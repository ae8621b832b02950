import IndicatorFeeds.Lease.KeepAlive
import IndicatorFeeds.Proofs.Program.Along

/-!
Programs under a lease. A program that holds a lease can be followed without its renewals: they
are moves of others, which come before its own requests while a timer runs beside it.
-/

namespace IndicatorFeeds

variable {σ : Type}

namespace Surroundings

/-- The surroundings of a program that holds a lease. Where it asks for a renewal, the state and
the lease may become what `renewed` says. -/
def held (env : Surroundings σ) (renewed : σ × Lease → σ × Lease → Prop) :
    Surroundings (σ × Lease)
  | .renewLease, x, _, y => renewed x y
  | r, x, a, y => env r x.1 a y.1 ∧ y.2 = x.2

/-- What any number of renewals make of a state. -/
def renewals (env : Surroundings σ) : σ → σ → Prop :=
  Relation.ReflTransGen fun s t => env .renewLease s () t

theorem held_of_ne {env : Surroundings σ} {renewed : σ × Lease → σ × Lease → Prop} {r : Request}
    {a : r.Answer} (different : r ≠ .renewLease) :
    env.held renewed r x a y ↔ env r x.1 a y.1 ∧ y.2 = x.2 := by
  cases r <;> first | exact Iff.rfl | exact absurd rfl different

end Surroundings

namespace Program

variable {env : Surroundings σ} {own : σ → σ → Prop} {ends : Except Failure α → σ → Prop}

private theorem along_renewFor {next : Program α} {count : Nat}
    (renewal : ∀ s t, env .renewLease s () t → own s t)
    (after : ∀ t, env.renewals s t → Along env Eq own ends next t) :
    Along env Eq own ends (KeepAlive.renewFor next count) s := by
  induction count generalizing s with
  | zero => exact after s .refl
  | succ count ih =>
    rintro _ rfl _ t renewed
    exact ⟨renewal s t renewed, ih fun u later => after u (.head renewed later)⟩

/-- A program beside a timer behaves as it does alone, but for renewals before its requests. -/
theorem Along.during {p : Program α} (renewal : ∀ s t, env .renewLease s () t → own s t)
    (ring : ∀ s a t, env .rings s a t → t = s) (still : ∀ s, own s s)
    (along : Along env env.renewals own ends p s) :
    Along env Eq own ends (KeepAlive.during p) s := by
  induction p generalizing s with
  | done | fail => exact along
  | ask r next ih =>
    rintro _ rfl count t rang
    obtain rfl := ring _ _ _ rang
    refine ⟨still t, along_renewFor renewal fun u later => ?_⟩
    rintro _ rfl a v answered
    obtain ⟨allowed, rest⟩ := along u later a v answered
    exact ⟨allowed, ih a rest⟩

/-- A program that holds a lease asks for whatever it asks for, but for renewals. -/
theorem holding_ask (service : LeaseService) (lease : Lease) {r : Request}
    (next : r.Answer → Program α) (notRenewal : r ≠ .renewLease) :
    service.holding lease (ask r next) = ask r fun a => service.holding lease (next a) := by
  cases r <;> first | rfl | exact absurd rfl notRenewal

/-- A program that holds a lease behaves as it does in surroundings that renew the lease, if the
service renews it so. What renewals keep of the lease may be used for each of them. -/
theorem Along.holding {service : LeaseService} {renewed : σ × Lease → σ × Lease → Prop}
    {ends : Except Failure (Lease × Except Error α) → σ → Prop} {p : Program α} (kept : Lease → Prop)
    (renewal : ∀ s lease, kept lease → Along env Eq own (fun result t => match result with
      | .ok lease' => renewed (s, lease) (t, lease') ∧ kept lease'
      | .error (.error _) => False
      | .error (.fault f) => ends (.error (.fault f)) t) (service.renewQuietly lease) s)
    (start : kept lease)
    (along : Along (env.held renewed) Eq (fun x y => own x.1 y.1) (fun result x =>
      match result with
      | .ok a => ends (.ok (x.2, .ok a)) x.1
      | .error (.error e) => ends (.ok (x.2, .error e)) x.1
      | .error (.fault f) => ends (.error (.fault f)) x.1) p (s, lease)) :
    Along env Eq own ends (service.holding lease p) s := by
  induction p generalizing s lease with
  | done => exact along
  | fail e => cases e <;> exact along
  | ask r next ih =>
    by_cases renews : r = .renewLease
    · subst renews
      rw [LeaseService.holding, along_bind_iff]
      refine (renewal s lease start).weaken fun result t ended => ?_
      match result with
      | .ok lease' => exact ih () ended.2 (along _ rfl () (t, lease') ended.1).2
      | .error (.fault f) => exact ended
    · rw [holding_ask service lease next renews]
      rintro _ rfl a t answered
      obtain ⟨allowed, rest⟩ := along _ rfl a (t, lease)
        ((Surroundings.held_of_ne renews).mpr ⟨answered, rfl⟩)
      exact ⟨allowed, ih a start rest⟩

end Program

end IndicatorFeeds

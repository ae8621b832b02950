import IndicatorFeeds.Proofs.Program.Along

namespace IndicatorFeeds

variable {σ : Type}

namespace Surroundings

/-- The surroundings with the first time of day noted beside the state. -/
def noting (env : Surroundings σ) : Surroundings (σ × Option Reading)
  | .now, x, (now : Reading), y => env .now x.1 now y.1 ∧ y.2 = some (x.2.getD now)
  | r, x, a, y => env r x.1 a y.1 ∧ y.2 = x.2

variable {env : Surroundings σ} {r : Request} {a : r.Answer} {x y : σ × Option Reading}

theorem noting_state (answered : env.noting r x a y) : env r x.1 a y.1 := by
  cases r <;> exact answered.1

theorem noting_of_ne (different : r ≠ .now) : env.noting r x a y ↔ env r x.1 a y.1 ∧ y.2 = x.2 := by
  cases r <;> first | exact Iff.rfl | exact absurd rfl different

theorem exists_noting {s t : σ} (first : Option Reading) (answered : env r s a t) :
    ∃ told, env.noting r (s, first) a (t, told) := by
  cases r <;> exact ⟨_, answered, rfl⟩

theorem noting_told {now : Reading} (answered : env.noting r x a y) (told : x.2 = some now) :
    y.2 = some now := by
  cases r with
  | now => exact answered.2.trans (by rw [told]; rfl)
  | _ => exact answered.2.trans told

/-- A way of answering with the first time noted. -/
def noted (answer : (r : Request) → σ → r.Answer × σ) :
    (r : Request) → σ × Option Reading → r.Answer × (σ × Option Reading)
  | .now, x => ((answer .now x.1).1, (answer .now x.1).2, some (x.2.getD (answer .now x.1).1))
  | r, x => ((answer r x.1).1, (answer r x.1).2, x.2)

theorem noted_allowed {answer : (r : Request) → σ → r.Answer × σ}
    (allowed : ∀ r s, env r s (answer r s).1 (answer r s).2) (r : Request) (x : σ × Option Reading) :
    env.noting r x (noted answer r x).1 (noted answer r x).2 := by
  cases r <;> exact ⟨allowed _ x.1, rfl⟩

end Surroundings

namespace Program

variable {env : Surroundings σ} {own : σ → σ → Prop} {ends : Except Failure α → σ → Prop} {s t : σ}
  {first : Option Reading} {now : Reading}

theorem Along.noting (along : Along env Eq own ends p s) (first : Option Reading) :
    Along env.noting Eq (fun x y => own x.1 y.1) (fun result y => ends result y.1) p (s, first) := by
  induction p generalizing s first with
  | done | fail => exact along
  | ask r next ih =>
    rintro _ rfl a y answered
    obtain ⟨allowed, rest⟩ := along _ rfl a y.1 (Surroundings.noting_state answered)
    exact ⟨allowed, ih a rest y.2⟩

theorem Along.forgetting (along : Along env.noting Eq (fun x y => own x.1 y.1)
    (fun result y => ends result y.1) p (s, first)) : Along env Eq own ends p s := by
  induction p generalizing s first with
  | done | fail => exact along
  | ask r next ih =>
    rintro _ rfl a t answered
    obtain ⟨told, noted⟩ := Surroundings.exists_noting first answered
    obtain ⟨allowed, rest⟩ := along _ rfl a (t, told) noted
    exact ⟨allowed, ih a rest⟩

theorem asks_trivial (p : Program α) : p.Asks fun _ => True := by
  induction p with
  | done | fail => trivial
  | ask r next ih => exact ⟨trivial, ih⟩

/-- A program that has been told a time keeps it. -/
theorem along_told (p : Program α) (s : σ) (now : Reading) :
    Along env.noting Eq (fun _ _ => True) (fun _ y => y.2 = some now) p (s, some now) := by
  have keeps : ∀ r (x : σ × Option Reading) a y, True → x.2 = some now → env.noting r x a y →
      y.2 = some now := fun _ _ _ _ _ told answered => Surroundings.noting_told answered told
  exact (asks_trivial p).ending (fun y : σ × Option Reading => y.2 = some now) keeps rfl

/-- A program that does not ask for the time is not told it. -/
theorem Asks.untold {p : Program α} (asks : p.Asks (· ≠ .now)) (env : Surroundings σ) (s : σ) :
    Along env.noting Eq (fun _ _ => True) (fun _ y => y.2 = none) p (s, none) := by
  have keeps : ∀ r (x : σ × Option Reading) a y, r ≠ .now → x.2 = none → env.noting r x a y →
      y.2 = none := by
    intro r x a y other untold answered
    exact ((Surroundings.noting_of_ne other).mp answered).2.trans untold
  exact asks.ending (fun y : σ × Option Reading => y.2 = none) keeps rfl

theorem Reaches.state {x y : σ × Option Reading} (way : Reaches env.noting p x q y) :
    Reaches env p x.1 q y.1 := by
  induction way with
  | here => exact .here
  | asked answered _ ih => exact .asked (Surroundings.noting_state answered) ih

end Program

end IndicatorFeeds

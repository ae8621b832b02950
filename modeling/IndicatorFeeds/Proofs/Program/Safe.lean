import IndicatorFeeds.Proofs.Program.Along

namespace IndicatorFeeds.Program

variable {σ : Type} {may final : Request → Prop}

/-- Every request that the program can come to is one of `may`, and no answers make it end with a
fault. -/
def Safe (may : Request → Prop) : Program α → Prop
  | done _ | fail (.error _) => True
  | fail (.fault _) => False
  | ask r next => may r ∧ ∀ a, (next a).Safe may

theorem Safe.bind {p : Program α} {f : α → Program β} (first : p.Safe may)
    (next : ∀ a, (f a).Safe may) : (p.bind f).Safe may := by
  induction p with
  | done a => exact next a
  | fail e =>
    cases e with
    | error => trivial
    | fault => exact first
  | ask r rest ih => exact ⟨first.1, fun a => ih a (first.2 a)⟩

theorem Safe.attempt {p : Program α} (safe : p.Safe may) : p.attempt.Safe may := by
  induction p with
  | done => trivial
  | fail e =>
    cases e with
    | error => trivial
    | fault => exact safe
  | ask r rest ih => exact ⟨safe.1, fun a => ih a (safe.2 a)⟩

theorem Safe.asks {p : Program α} (safe : p.Safe may) : p.Asks may := by
  induction p with
  | done | fail => trivial
  | ask r next ih => exact ⟨safe.1, fun a => ih a (safe.2 a)⟩

/-- A safe program ends with a value or an error, and makes no moves but those of its requests. -/
theorem Safe.settles {env : Surroundings σ} {others own : σ → σ → Prop} {p : Program α}
    (safe : p.Safe may) (moves : ∀ r s a t, may r → env r s a t → own s t) (s : σ) :
    Along env others own (Settles (fun _ _ => True) fun _ _ => True) p s := by
  induction p generalizing s with
  | done => trivial
  | fail e =>
    cases e with
    | error => trivial
    | fault => exact safe
  | ask r next ih =>
    intro t _ a u answered
    exact ⟨moves r t a u safe.1 answered, ih a (safe.2 a) u⟩

theorem safe_ofExcept (a : Except Error α) : (ofExcept a).Safe may := by
  cases a <;> trivial

theorem safe_ofStore (a : Except Store.Error α) : (ofStore a).Safe may := by
  cases a <;> trivial

/-- After a request that is `final` no answers make the program end with a fault. -/
def Seals (final : Request → Prop) : Program α → Prop
  | done _ | fail _ => True
  | ask r next => ∀ a, (next a).Seals final ∧ (final r → (next a).Safe fun _ => True)

theorem Safe.seals {p : Program α} (safe : p.Safe fun _ => True) : p.Seals final := by
  induction p with
  | done | fail => trivial
  | ask r next ih => exact fun a => ⟨ih a (safe.2 a), fun _ => safe.2 a⟩

theorem Seals.bind {p : Program α} {f : α → Program β} (seals : p.Seals final)
    (safe : ∀ a, (f a).Safe fun _ => True) : (p.bind f).Seals final := by
  induction p with
  | done a => exact (safe a).seals
  | fail => trivial
  | ask r next ih =>
    exact fun a => ⟨ih a (seals a).1, fun last => ((seals a).2 last).bind safe⟩

/-- What comes before does not ask for the final thing. -/
theorem Asks.seals_bind {p : Program α} {f : α → Program β} (asks : p.Asks (¬final ·))
    (rest : ∀ a, (f a).Seals final) : (p.bind f).Seals final := by
  induction p with
  | done a => exact rest a
  | fail => trivial
  | ask r next ih => exact fun a => ⟨ih a (asks.2 a), fun last => absurd last asks.1⟩

/-- What everything keeps but a final request holds where a fault ends the program. -/
theorem Seals.along {env : Surroundings σ} {own : σ → σ → Prop}
    {ends : Except Failure α → σ → Prop} {p : Program α} {s : σ} {holds : σ → Prop}
    (seals : p.Seals final) (along : Along env Eq own ends p s)
    (keeps : ∀ r s a t, ¬final r → env r s a t → own s t → holds s → holds t) (start : holds s) :
    Along env Eq own (fun result t => ends result t ∧ ∀ f, result = .error (.fault f) → holds t)
      p s := by
  induction p generalizing s with
  | done => exact ⟨along, nofun⟩
  | fail => exact ⟨along, fun _ _ => start⟩
  | ask r next ih =>
    rintro _ rfl a t answered
    obtain ⟨moved, rest⟩ := along _ rfl a t answered
    refine ⟨moved, ?_⟩
    by_cases last : final r
    · have settles : Along env Eq (fun _ _ => True) (Settles (fun _ _ => True) fun _ _ => True)
          (next a) t := ((seals a).2 last).settles (fun _ _ _ _ _ _ => trivial) t
      refine (rest.and settles).mono (fun _ _ => id) (fun _ _ => And.left) ?_
      rintro result u ⟨ended, settled⟩
      refine ⟨ended, ?_⟩
      rintro f rfl
      exact settled.elim
    · exact ih a (seals a).1 rest (keeps r s a t last answered moved start)

/-- A request that is `final` is the last one: with its answer the program has a value or an error. -/
def Closes (final : Request → Prop) : Program α → Prop
  | done _ | fail _ => True
  | ask r next => ∀ a, (next a).Closes final ∧ (final r → ∃ result, next a = ofExcept result)

theorem Asks.closes_bind {p : Program α} {f : α → Program β} (asks : p.Asks (¬final ·))
    (rest : ∀ a, (f a).Closes final) : (p.bind f).Closes final := by
  induction p with
  | done a => exact rest a
  | fail => trivial
  | ask r next ih => exact fun a => ⟨ih a (asks.2 a), fun last => absurd last asks.1⟩

end IndicatorFeeds.Program

import IndicatorFeeds.Program
import Mathlib.Logic.Relation

/-!
Programs in surroundings that are not known beforehand. `Program.Reaches` says what points a
program can come to, and `Program.Along` is what holds all along its way: each of its moves is one
that it may make, and it ends as it should, whatever others do before each of its requests.
-/

namespace IndicatorFeeds

/-- What may happen at a request in a state: its answers, each with the state after it. -/
abbrev Surroundings (σ : Type) := (r : Request) → σ → r.Answer → σ → Prop

namespace Program

variable {σ τ : Type}

/-- What is left of a program that has ended. -/
def ofResult : Except Failure α → Program α
  | .ok a => done a
  | .error e => fail e

/-- The points that a program can come to: what is left of it, and the state there. -/
inductive Reaches {α : Type} (env : Surroundings σ) : Program α → σ → Program α → σ → Prop where
  | here : Reaches env p s p s
  | asked (answered : env r s a t) (rest : Reaches env (next a) t q u) :
      Reaches env (ask r next) s q u

/-- A program can end so, and the state can be this one then. -/
def Ends (env : Surroundings σ) (p : Program α) (s : σ) (result : Except Failure α) (t : σ) :
    Prop :=
  Reaches env p s (ofResult result) t

theorem ends_run {env : Surroundings σ} {answer : (r : Request) → σ → r.Answer × σ}
    (allowed : ∀ r s, env r s (answer r s).1 (answer r s).2) (p : Program α) (s : σ) :
    Ends env p s (p.run answer s).1 (p.run answer s).2 := by
  induction p generalizing s with
  | done | fail => exact .here
  | ask r next ih => exact .asked (allowed r s) (ih _ _)

/-- The point that a program comes to with so many answers. -/
def steps (answer : (r : Request) → σ → r.Answer × σ) : Nat → Program α → σ → Program α × σ
  | n + 1, ask r next, s => steps answer n (next (answer r s).1) (answer r s).2
  | _, p, s => (p, s)

theorem reaches_steps {env : Surroundings σ} {answer : (r : Request) → σ → r.Answer × σ}
    (allowed : ∀ r s, env r s (answer r s).1 (answer r s).2) (n : Nat) (p : Program α) (s : σ) :
    Reaches env p s (steps answer n p s).1 (steps answer n p s).2 := by
  induction n generalizing p s with
  | zero => exact .here
  | succ n ih =>
    cases p with
    | done | fail => exact .here
    | ask r next => exact .asked (allowed r s) (ih _ _)

/-- Whatever others do before each request of the program, as far as `others` lets them, every
move of the program is one of `own`, and it ends as `ends` says. -/
def Along (env : Surroundings σ) (others own : σ → σ → Prop)
    (ends : Except Failure α → σ → Prop) : Program α → σ → Prop
  | done a, s => ends (.ok a) s
  | fail e, s => ends (.error e) s
  | ask r next, s => ∀ t, others s t → ∀ a u, env r t a u →
      own t u ∧ (next a).Along env others own ends u

section Along

variable {env : Surroundings σ} {others own : σ → σ → Prop} {ends : Except Failure α → σ → Prop}

theorem Along.mono {others' own' : σ → σ → Prop} {ends' : Except Failure α → σ → Prop}
    (along : Along env others own ends p s) (fewer : ∀ s t, others' s t → others s t)
    (more : ∀ s t, own s t → own' s t) (weaker : ∀ result s, ends result s → ends' result s) :
    Along env others' own' ends' p s := by
  induction p generalizing s with
  | done | fail => exact weaker _ _ along
  | ask r next ih =>
    intro t moved a u answered
    obtain ⟨allowed, rest⟩ := along t (fewer _ _ moved) a u answered
    exact ⟨more _ _ allowed, ih a rest⟩

theorem Along.weaken {ends' : Except Failure α → σ → Prop} (along : Along env others own ends p s)
    (weaker : ∀ result s, ends result s → ends' result s) : Along env others own ends' p s :=
  along.mono (fun _ _ => id) (fun _ _ => id) weaker

theorem Along.ending (along : Along env others own ends p s) :
    Along env others (fun _ _ => True) ends p s :=
  along.mono (fun _ _ => id) (fun _ _ _ => trivial) fun _ _ => id

theorem along_trivial (p : Program α) (s : σ) :
    Along env others (fun _ _ => True) (fun _ _ => True) p s := by
  induction p generalizing s with
  | done | fail => trivial
  | ask r next ih => exact fun t _ a u _ => ⟨trivial, ih a u⟩

/-- What the others do before a program leaves it as it is. -/
theorem Along.after (along : Along env others own ends p s)
    (trans : ∀ s t u, others s t → others t u → others s u)
    (kept : ∀ result s t, ends result s → others s t → ends result t) (moved : others s t) :
    Along env others own ends p t := by
  cases p with
  | done | fail => exact kept _ _ _ along moved
  | ask => exact fun u later => along u (trans _ _ _ moved later)

theorem Along.and {own' : σ → σ → Prop} {ends' : Except Failure α → σ → Prop}
    (first : Along env others own ends p s) (second : Along env others own' ends' p s) :
    Along env others (fun s t => own s t ∧ own' s t)
      (fun result s => ends result s ∧ ends' result s) p s := by
  induction p generalizing s with
  | done | fail => exact ⟨first, second⟩
  | ask r next ih =>
    intro t moved a u answered
    obtain ⟨allowed, rest⟩ := first t moved a u answered
    obtain ⟨allowed', rest'⟩ := second t moved a u answered
    exact ⟨⟨allowed, allowed'⟩, ih a rest rest'⟩

/-- Along one program after another: what follows starts where the first has ended. -/
theorem along_bind_iff {ends : Except Failure β → σ → Prop} {p : Program α} {f : α → Program β} :
    Along env others own ends (p.bind f) s ↔
      Along env others own (fun result t => match result with
        | .ok a => Along env others own ends (f a) t
        | .error e => ends (.error e) t) p s := by
  induction p generalizing s with
  | done | fail => exact Iff.rfl
  | ask r next ih =>
    simp only [bind_ask, Along, ih]

theorem along_attempt_iff {ends : Except Failure (Except Error α) → σ → Prop} {p : Program α} :
    Along env others own ends p.attempt s ↔
      Along env others own (fun result t => match result with
        | .ok a => ends (.ok (.ok a)) t
        | .error (.error e) => ends (.ok (.error e)) t
        | .error (.fault f) => ends (.error (.fault f)) t) p s := by
  induction p generalizing s with
  | done => exact Iff.rfl
  | fail e => cases e <;> exact Iff.rfl
  | ask r next ih => simp only [attempt, Along, ih]

theorem along_orOnFault_iff {whenFault : Fault → α} {p : Program α} :
    Along env others own ends (p.orOnFault whenFault) s ↔
      Along env others own (fun result t => match result with
        | .error (.fault f) => ends (.ok (whenFault f)) t
        | result => ends result t) p s := by
  induction p generalizing s with
  | done => exact Iff.rfl
  | fail e => cases e <;> exact Iff.rfl
  | ask r next ih => simp only [orOnFault, Along, ih]

/-- Where a program ends, the moves that have led there are known, if they make up one move. -/
theorem Along.moved (along : Along env Eq own ends p s) (still : ∀ s, own s s)
    (trans : ∀ s t u, own s t → own t u → own s u) :
    Along env Eq own (fun result t => own s t ∧ ends result t) p s := by
  induction p generalizing s with
  | done | fail => exact ⟨still s, along⟩
  | ask r next ih =>
    rintro _ rfl a u answered
    obtain ⟨allowed, rest⟩ := along _ rfl a u answered
    exact ⟨allowed, (ih a rest).weaken fun _ t ended => ⟨trans _ _ _ allowed ended.1, ended.2⟩⟩

/-- What every move keeps may be used for each of them, and holds at the end. -/
theorem Along.keeping {holds : σ → Prop} (along : Along env Eq own ends p s) (start : holds s)
    (kept : ∀ s t, holds s → own s t → holds t) :
    Along env Eq (fun s t => holds s ∧ own s t) (fun result t => holds t ∧ ends result t) p s := by
  induction p generalizing s with
  | done | fail => exact ⟨start, along⟩
  | ask r next ih =>
    rintro _ rfl a u answered
    obtain ⟨allowed, rest⟩ := along _ rfl a u answered
    exact ⟨⟨start, allowed⟩, ih a rest (kept _ _ start allowed)⟩

/-- What holds along a program alone holds at each point that it comes to. -/
theorem Along.reached (along : Along env Eq own ends p s) (way : Reaches env p s q t) :
    Along env Eq own ends q t ∧ Relation.ReflTransGen own s t := by
  induction way with
  | here => exact ⟨along, .refl⟩
  | asked answered _ ih =>
    obtain ⟨allowed, rest⟩ := along _ rfl _ _ answered
    obtain ⟨there, moves⟩ := ih rest
    exact ⟨there, .head allowed moves⟩

theorem Along.ended (along : Along env Eq own ends p s) (way : Ends env p s result t) :
    ends result t := by
  have there := (along.reached way).1
  cases result <;> exact there

/-- A program ends with a value or with an error, and not with a fault. -/
def Settles (value : α → σ → Prop) (error : Error → σ → Prop) : Except Failure α → σ → Prop
  | .ok a, s => value a s
  | .error (.error e), s => error e s
  | .error (.fault _), _ => False

variable {value : α → σ → Prop} {error : Error → σ → Prop}

theorem Settles.mono {value' : α → σ → Prop} {error' : Error → σ → Prop} {result : Except Failure α}
    (settles : Settles value error result s) (values : ∀ a, value a s → value' a s)
    (errors : ∀ e, error e s → error' e s) : Settles value' error' result s := by
  match result with
  | .ok a => exact values a settles
  | .error (.error e) => exact errors e settles

/-- A program ends with a value, with an error, or with a fault. -/
def Concludes (value : α → σ → Prop) (error : Error → σ → Prop) (fault : Fault → σ → Prop) :
    Except Failure α → σ → Prop
  | .ok a, s => value a s
  | .error (.error e), s => error e s
  | .error (.fault f), s => fault f s

theorem Settles.concludes {fault : Fault → σ → Prop} {result : Except Failure α}
    (settles : Settles value error result s) : Concludes value error fault result s := by
  match result with
  | .ok _ | .error (.error _) => exact settles

section Concludes

variable {fault : Fault → σ → Prop} {p : Program α} {ends : Except Failure β → σ → Prop}

/-- One program after another: what follows starts with the value of the first, and an error or a fault
of the first is that of both. -/
theorem Along.continued {f : α → Program β}
    (along : Along env others own (Concludes value error fault) p s)
    (errors : ∀ e t, error e t → ends (.error (.error e)) t)
    (faults : ∀ e t, fault e t → ends (.error (.fault e)) t)
    (rest : ∀ a t, value a t → Along env others own ends (f a) t) :
    Along env others own ends (p.bind f) s := by
  refine along_bind_iff.mpr (along.weaken fun result t ended => ?_)
  match result with
  | .ok a => exact rest a t ended
  | .error (.error e) => exact errors e t ended
  | .error (.fault e) => exact faults e t ended

theorem Along.next {f : α → Program β} (along : Along env others own (Settles value error) p s)
    (errors : ∀ e t, error e t → ends (.error (.error e)) t)
    (rest : ∀ a t, value a t → Along env others own ends (f a) t) :
    Along env others own ends (p.bind f) s :=
  (along.weaken fun _ _ => Settles.concludes).continued errors (fun _ _ => False.elim) rest

/-- Whether it has a value or an error, a program whose outcome is taken as a value goes on. -/
theorem Along.attempted {f : Except Error α → Program β}
    (along : Along env others own (Settles value error) p s)
    (ok : ∀ a t, value a t → Along env others own ends (f (.ok a)) t)
    (failed : ∀ e t, error e t → Along env others own ends (f (.error e)) t) :
    Along env others own ends (p.attempt.bind f) s := by
  refine along_bind_iff.mpr (along_attempt_iff.mpr (along.weaken fun result t ended => ?_))
  match result with
  | .ok a => exact ok a t ended
  | .error (.error e) => exact failed e t ended

end Concludes

end Along

/-- Every request that the program can come to is one of `may`. -/
def Asks (may : Request → Prop) : Program α → Prop
  | done _ | fail _ => True
  | ask r next => may r ∧ ∀ a, (next a).Asks may

section Asks

variable {may : Request → Prop}

theorem Asks.mono {might : Request → Prop} {p : Program α} (asks : p.Asks may)
    (more : ∀ request, may request → might request) : p.Asks might := by
  induction p with
  | done | fail => trivial
  | ask request next ih => exact ⟨more _ asks.1, fun a => ih a (asks.2 a)⟩

theorem Asks.bind {p : Program α} {f : α → Program β} (first : p.Asks may)
    (next : ∀ a, (f a).Asks may) : (p.bind f).Asks may := by
  induction p with
  | done => exact next _
  | fail => trivial
  | ask r rest ih => exact ⟨first.1, fun a => ih a (first.2 a)⟩

theorem Asks.attempt {p : Program α} (asks : p.Asks may) : p.attempt.Asks may := by
  induction p with
  | done => trivial
  | fail e => cases e <;> trivial
  | ask r rest ih => exact ⟨asks.1, fun a => ih a (asks.2 a)⟩

/-- Every request of a program makes a move that it may make. -/
theorem Asks.moves {env : Surroundings σ} {others own : σ → σ → Prop} {p : Program α}
    (asks : p.Asks may) (moves : ∀ r s a t, may r → env r s a t → own s t) (s : σ) :
    Along env others own (fun _ _ => True) p s := by
  induction p generalizing s with
  | done | fail => trivial
  | ask r next ih =>
    exact fun t _ a u answered => ⟨moves r t a u asks.1 answered, ih a (asks.2 a) u⟩

/-- What every request of a program keeps, and the others keep as well, may be used for each of its
moves. -/
theorem Asks.keeping {env : Surroundings σ} {others own : σ → σ → Prop} {p : Program α}
    (asks : p.Asks may) (holds : σ → Prop)
    (keeps : ∀ r s a t, may r → holds s → env r s a t → own s t ∧ holds t)
    (kept : ∀ s t, others s t → holds s → holds t) (start : holds s) :
    Along env others own (fun _ t => holds t) p s := by
  induction p generalizing s with
  | done | fail => exact start
  | ask r next ih =>
    intro t moved a u answered
    obtain ⟨allowed, after⟩ := keeps r t a u asks.1 (kept s t moved start) answered
    exact ⟨allowed, ih a (asks.2 a) after⟩

/-- What every request of a program keeps, and the others keep as well, holds all along it. -/
theorem Asks.along {env : Surroundings σ} {others : σ → σ → Prop} {p : Program α}
    (asks : p.Asks may) (holds : σ → Prop)
    (keeps : ∀ r s a t, may r → holds s → env r s a t → holds t)
    (kept : ∀ s t, others s t → holds s → holds t) (start : holds s) :
    Along env others (fun s t => holds s ∧ holds t) (fun _ t => holds t) p s :=
  asks.keeping holds (fun r s a t may before answered =>
    have after := keeps r s a t may before answered
    ⟨⟨before, after⟩, after⟩) kept start

/-- What every request of a program keeps holds at its end, if nobody else makes a move. -/
theorem Asks.ending {env : Surroundings σ} {p : Program α} (asks : p.Asks may) (holds : σ → Prop)
    (keeps : ∀ r s a t, may r → holds s → env r s a t → holds t) (start : holds s) :
    Along env Eq (fun _ _ => True) (fun _ t => holds t) p s := by
  have kept : ∀ s t, s = t → holds s → holds t := fun _ _ same there => same ▸ there
  exact (asks.along holds keeps kept start).ending

/-- A request that what comes first does not make is made by what follows. -/
theorem Asks.passes {env : Surroundings σ} {p : Program α} {f : α → Program β} {r : Request}
    {next : r.Answer → Program β} {s t : σ} (asks : p.Asks may) (other : ¬may r)
    (way : Reaches env (p.bind f) s (ask r next) t) :
    ∃ a u, Ends env p s (.ok a) u ∧ Reaches env (f a) u (ask r next) t := by
  induction p generalizing s with
  | done a => exact ⟨a, s, .here, way⟩
  | fail => cases way
  | ask r' rest ih =>
    cases way with
    | here => exact absurd asks.1 other
    | asked answered way =>
      obtain ⟨a, u, ended, onward⟩ := ih _ (asks.2 _) way
      exact ⟨a, u, .asked answered ended, onward⟩

end Asks

section Ways

variable {env : Surroundings σ} {s t u : σ}

theorem ask_of_orOnFault {whenFault : Fault → α} {p : Program α} {r : Request}
    {next : r.Answer → Program α} (same : p.orOnFault whenFault = ask r next) :
    ∃ next', p = ask r next' := by
  match p with
  | .done _ | .fail (.error _) | .fail (.fault _) => cases same
  | .ask _ next' =>
    cases same
    exact ⟨next', rfl⟩

/-- The way of a program with a value for every fault is that of the program. -/
theorem reaches_orOnFault_iff {whenFault : Fault → α} {p q : Program α} :
    Reaches env (p.orOnFault whenFault) s q t ↔
      ∃ q', Reaches env p s q' t ∧ q = q'.orOnFault whenFault := by
  constructor
  · intro way
    generalize same : p.orOnFault whenFault = p' at way
    induction way generalizing p with
    | here => exact ⟨p, .here, same.symm⟩
    | asked answered _ ih =>
      obtain ⟨next', rfl⟩ := ask_of_orOnFault same
      cases same
      obtain ⟨q', onward, same⟩ := ih rfl
      exact ⟨q', .asked answered onward, same⟩
  · rintro ⟨q', way, rfl⟩
    induction way with
    | here => exact .here
    | asked answered _ ih => exact .asked answered ih

theorem Reaches.trans {p q q' : Program α} (way : Reaches env p s q t)
    (onward : Reaches env q t q' u) : Reaches env p s q' u := by
  induction way with
  | here => exact onward
  | asked answered _ ih => exact .asked answered (ih onward)

end Ways

end Program

end IndicatorFeeds

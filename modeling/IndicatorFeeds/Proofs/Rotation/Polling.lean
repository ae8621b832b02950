import IndicatorFeeds.Proofs.Rotation.LongWait
import IndicatorFeeds.World
import Mathlib.Order.Bounds.Basic

namespace IndicatorFeeds

open Program

/-- All copies have started, and there are some. -/
def Store.AllStarted (shards : List Store.ShardStatus) : Prop :=
  shards ≠ [] ∧ ∀ copy ∈ shards, copy.state = .started

theorem Store.allShardsStarted_iff {shards : List Store.ShardStatus} :
    Store.allShardsStarted shards = true ↔ Store.AllStarted shards := by
  simp [Store.allShardsStarted, Store.AllStarted]

/-- A world in which polls are answered in turn, with the number of polls so far. -/
structure Polled where
  world : World
  polls : Nat

/-- The answer to a request: polls are answered in turn, and everything else as in the world. -/
def Polled.answer (states : Nat → Except Store.Error (List Store.ShardStatus)) :
    (r : Request) → Polled → r.Answer × Polled
  | .store (.shardStates _), x => (states x.polls, { x with polls := x.polls + 1 })
  | r, x => ((x.world.answer r).1, { x with world := (x.world.answer r).2 })

namespace Rotation.ShardWait

/-- The time from one poll to the next, in milliseconds: a renewal of this cost, and a pause. -/
def round (w : ShardWait) (cost : Nat) : Nat := w.pause + cost

/-- The number of the poll at which the time is up, if the polls are counted from 0. -/
def lastPoll (w : ShardWait) (cost : Nat) : Nat :=
  (w.timeoutMillis + w.round cost - 1) / w.round cost

/-- A world after so many rounds: only clock and renewals have moved on. -/
def worldAfter (w : ShardWait) (world : World) (rounds : Nat) : World :=
  { world with
    millis := world.millis + rounds * w.round world.renewalMillis
    renewals := world.renewals + rounds }

/-- A world after one more round. -/
def nextRound (w : ShardWait) (world : World) : World :=
  { world with
    millis := world.millis + world.renewalMillis + w.pause
    renewals := world.renewals + 1 }

theorem worldAfter_succ (w : ShardWait) (world : World) (rounds : Nat) :
    w.worldAfter world (rounds + 1) = w.nextRound (w.worldAfter world rounds) := by
  have later : world.millis + (rounds + 1) * w.round world.renewalMillis =
      world.millis + rounds * w.round world.renewalMillis + world.renewalMillis + w.pause := by
    rw [Nat.succ_mul]
    unfold round
    omega
  simp only [worldAfter, nextRound, later, Nat.add_assoc]

/-- An answer after which the wait goes on while there is time: some copy has not started, or there is
none. -/
def Pending (answer : Except Store.Error (List Store.ShardStatus)) : Prop :=
  ∃ shards, answer = .ok shards ∧ ¬Store.AllStarted shards

section

variable {w : ShardWait} {cost i : Nat}

theorem round_pos (pauses : 0 < w.pollMillis) : 0 < w.round cost :=
  Nat.add_pos_left (Nat.lt_min.mpr ⟨pauses, by decide⟩) cost

theorem lt_lastPoll_iff (pauses : 0 < w.pollMillis) :
    i < w.lastPoll cost ↔ i * w.round cost < w.timeoutMillis := by
  have positive : 0 < w.round cost := round_pos pauses
  rw [lastPoll, ← Nat.succ_le_iff, Nat.le_div_iff_mul_le positive, Nat.succ_mul]
  omega

theorem isLeast_lastPoll (pauses : 0 < w.pollMillis) :
    IsLeast {n | w.timeoutMillis ≤ n * w.round cost} (w.lastPoll cost) := by
  constructor
  · exact Nat.le_of_not_lt fun early => Nat.lt_irrefl _ ((lt_lastPoll_iff pauses).mpr early)
  · intro n late
    exact Nat.le_of_not_lt fun before =>
      Nat.not_le_of_lt ((lt_lastPoll_iff pauses).mp before) late

theorem lastPoll_mul_lt (pauses : 0 < w.pollMillis) :
    w.lastPoll cost * w.round cost < w.timeoutMillis + w.round cost := by
  have positive : 0 < w.round cost := round_pos pauses
  have bound := Nat.div_mul_le_self (w.timeoutMillis + w.round cost - 1) (w.round cost)
  unfold lastPoll
  omega

theorem lastPoll_le (pauses : 0 < w.pollMillis) : w.lastPoll cost ≤ w.timeoutMillis := by
  refine Nat.le_of_not_lt fun more => ?_
  have early := (lt_lastPoll_iff pauses).mp more
  have positive : 0 < w.round cost := round_pos pauses
  exact Nat.lt_irrefl _ (Nat.lt_of_le_of_lt (Nat.le_mul_of_pos_right _ positive) early)

example : lastPoll ⟨50, 7⟩ 0 = 8 := by decide

example : lastPoll ⟨200, 30⟩ 15 = 5 := by decide

end

section

variable {w : ShardWait} {states : Nat → Except Store.Error (List Store.ShardStatus)} {world : World}
  {index : String} {started polls i : Nat}

private theorem run_poll (x : Polled) :
    (w.poll index started (polls + 1)).run (Polled.answer states) x =
      match states x.polls with
      | .error e => (.error (.error (.store e)), ⟨x.world, x.polls + 1⟩)
      | .ok shards =>
        if Store.allShardsStarted shards then (.ok (), ⟨x.world, x.polls + 1⟩)
        else if w.timeoutMillis ≤ x.world.millis - started then
          (.error (.error (timedOut index (x.world.millis - started))), ⟨x.world, x.polls + 1⟩)
        else (w.poll index started polls).run (Polled.answer states)
          ⟨w.nextRound x.world, x.polls + 1⟩ := by
  show ((Program.ofStore (states x.polls)).bind fun shards =>
    if Store.allShardsStarted shards then _ else _).run _ _ = _
  cases states x.polls with
  | error e => rfl
  | ok shards =>
    show Program.run _ (if Store.allShardsStarted shards then _ else _) _ = _
    dsimp only
    split
    · rfl
    show Program.run _ (if w.timeoutMillis ≤ x.world.millis - started then _ else _) _ = _
    split <;> rfl

private theorem run_rounds (pauses : 0 < w.pollMillis) (last : i ≤ w.lastPoll world.renewalMillis)
    (pending : ∀ j < i, Pending (states j)) :
    (w.poll index world.millis (polls + i)).run (Polled.answer states) ⟨world, 0⟩ =
      (w.poll index world.millis polls).run (Polled.answer states) ⟨w.worldAfter world i, i⟩ := by
  induction i generalizing polls with
  | zero => simp [worldAfter]
  | succ i ih =>
    obtain ⟨shards, told, notAll⟩ := pending i (Nat.lt_succ_self i)
    have early := (lt_lastPoll_iff pauses).mp last
    have going : ¬w.timeoutMillis ≤ (w.worldAfter world i).millis - world.millis := by
      show ¬w.timeoutMillis ≤ world.millis + i * w.round world.renewalMillis - world.millis
      omega
    have before : ∀ j < i, Pending (states j) := fun j before => pending j (Nat.lt_succ_of_lt before)
    rw [← Nat.add_assoc, Nat.add_right_comm, ih (Nat.le_of_succ_le last) before, run_poll]
    simp only [told]
    rw [if_neg (mt Store.allShardsStarted_iff.mp notAll), if_neg going, worldAfter_succ]

private theorem run_reaches (index : String) (pauses : 0 < w.pollMillis)
    (last : i ≤ w.lastPoll world.renewalMillis) (pending : ∀ j < i, Pending (states j)) :
    ∃ polls, (w.run index).run (Polled.answer states) ⟨world, 0⟩ =
      (w.poll index world.millis (polls + 1)).run (Polled.answer states)
        ⟨w.worldAfter world i, i⟩ := by
  have few : i ≤ w.timeoutMillis := Nat.le_trans last (lastPoll_le pauses)
  obtain ⟨polls, enough, run⟩ := w.run_eq index
  obtain ⟨more, split⟩ := Nat.exists_eq_add_of_lt (Nat.lt_of_le_of_lt few enough)
  refine ⟨more, ?_⟩
  rw [← run_rounds pauses last pending, run, split, Nat.add_assoc, Nat.add_comm i]
  rfl

theorem run_started {shards : List Store.ShardStatus} (pauses : 0 < w.pollMillis)
    (last : i ≤ w.lastPoll world.renewalMillis) (pending : ∀ j < i, Pending (states j))
    (told : states i = .ok shards) (all : Store.AllStarted shards) :
    (w.run index).run (Polled.answer states) ⟨world, 0⟩ =
      (.ok (), ⟨w.worldAfter world i, i + 1⟩) := by
  obtain ⟨polls, reaches⟩ := run_reaches index pauses last pending
  rw [reaches, run_poll]
  simp only [told, Store.allShardsStarted_iff.mpr all, if_true]

theorem run_failed {e : Store.Error} (pauses : 0 < w.pollMillis)
    (last : i ≤ w.lastPoll world.renewalMillis) (pending : ∀ j < i, Pending (states j))
    (told : states i = .error e) :
    (w.run index).run (Polled.answer states) ⟨world, 0⟩ =
      (.error (.error (.store e)), ⟨w.worldAfter world i, i + 1⟩) := by
  obtain ⟨polls, reaches⟩ := run_reaches index pauses last pending
  rw [reaches, run_poll]
  simp only [told]

theorem run_timedOut (pauses : 0 < w.pollMillis)
    (pending : ∀ i ≤ w.lastPoll world.renewalMillis, Pending (states i)) :
    (w.run index).run (Polled.answer states) ⟨world, 0⟩ =
      (.error (.error (timedOut index
          (w.lastPoll world.renewalMillis * w.round world.renewalMillis))),
        ⟨w.worldAfter world (w.lastPoll world.renewalMillis),
          w.lastPoll world.renewalMillis + 1⟩) := by
  have before : ∀ j < w.lastPoll world.renewalMillis, Pending (states j) :=
    fun j before => pending j (Nat.le_of_lt before)
  obtain ⟨polls, reaches⟩ := run_reaches index pauses (Nat.le_refl _) before
  obtain ⟨shards, told, notAll⟩ := pending _ (Nat.le_refl _)
  have waited : (w.worldAfter world (w.lastPoll world.renewalMillis)).millis - world.millis =
      w.lastPoll world.renewalMillis * w.round world.renewalMillis := Nat.add_sub_cancel_left ..
  have late : w.timeoutMillis ≤ w.lastPoll world.renewalMillis * w.round world.renewalMillis :=
    (isLeast_lastPoll pauses).1
  rw [reaches, run_poll]
  simp only [told]
  rw [if_neg (mt Store.allShardsStarted_iff.mp notAll), waited, if_pos late]

/-- The wait for shards ends with the first poll that finds all copies started or that fails, if this is
not after the last poll, and otherwise with the last poll, which is the first one for which the time is
up. Polls come one round after another, so that the last one comes less than a round late. -/
theorem wait_ends_exactly (pauses : 0 < w.pollMillis)
    (states : Nat → Except Store.Error (List Store.ShardStatus)) (world : World) (index : String) :
    IsLeast {n | w.timeoutMillis ≤ n * w.round world.renewalMillis}
        (w.lastPoll world.renewalMillis) ∧
      w.lastPoll world.renewalMillis * w.round world.renewalMillis <
        w.timeoutMillis + w.round world.renewalMillis ∧
      (∀ i ≤ w.lastPoll world.renewalMillis, (∀ j < i, Pending (states j)) →
        (∀ shards, states i = .ok shards → Store.AllStarted shards →
          (w.run index).run (Polled.answer states) ⟨world, 0⟩ =
            (.ok (), ⟨w.worldAfter world i, i + 1⟩)) ∧
        ∀ e, states i = .error e →
          (w.run index).run (Polled.answer states) ⟨world, 0⟩ =
            (.error (.error (.store e)), ⟨w.worldAfter world i, i + 1⟩)) ∧
      ((∀ i ≤ w.lastPoll world.renewalMillis, Pending (states i)) →
        (w.run index).run (Polled.answer states) ⟨world, 0⟩ =
          (.error (.error (.shardTimeout index
              (w.lastPoll world.renewalMillis * w.round world.renewalMillis % UInt64.size))),
            ⟨w.worldAfter world (w.lastPoll world.renewalMillis),
              w.lastPoll world.renewalMillis + 1⟩)) := by
  refine ⟨isLeast_lastPoll pauses, lastPoll_mul_lt pauses, ?_, run_timedOut pauses⟩
  intro i last pending
  constructor
  · intro shards told all
    exact run_started pauses last pending told all
  · intro e told
    exact run_failed pauses last pending told

/-- A copy that does not start, polled every 30 ms for 200 ms with renewals that take 15 ms. -/
theorem wait_ends_exactly_stalled : 0 < 30 ∧
    (run ⟨200, 30⟩ "feed-x-1").run (Polled.answer fun _ => .ok [⟨0, true, .initializing⟩])
        ⟨{ renewalMillis := 15 }, 0⟩ =
      (.error (.error (.shardTimeout "feed-x-1" 225)),
        ⟨{ renewalMillis := 15, millis := 225, renewals := 5 }, 6⟩) := by
  refine ⟨by decide, ?_⟩
  have ends := (wait_ends_exactly (w := ⟨200, 30⟩) (by decide)
    (fun _ => .ok [⟨0, true, .initializing⟩]) { renewalMillis := 15 } "feed-x-1").2.2.2
  exact ends fun _ _ => ⟨_, rfl, by simp [Store.AllStarted]⟩

/-- The longest wait that can be asked for, with the longest pauses. -/
private def longest : ShardWait := ⟨UInt64.size - 1, UInt64.size - 2⟩

/-- No copies at the first poll, and one that has started from then on. -/
private def startedLater : Nat → Except Store.Error (List Store.ShardStatus)
  | 0 => .ok []
  | _ + 1 => .ok [⟨0, true, .started⟩]

/-- A pause of half a billion years is over after thirty. -/
theorem long_pause_cut_short : 0 < longest.pollMillis ∧
    longest.pollMillis < longest.timeoutMillis ∧ Pending (startedLater 0) ∧
    (∃ shards, startedLater 1 = .ok shards ∧ Store.AllStarted shards) ∧
    ∃ x : Polled, (longest.run "feed-x-1").run (Polled.answer startedLater) ⟨{}, 0⟩ = (.ok (), x) ∧
      x.world.renewals = 1 ∧ x.world.millis ≠ 1 * (longest.pollMillis + 0) := by
  have pending : Pending (startedLater 0) := ⟨[], rfl, by simp [Store.AllStarted]⟩
  have all : Store.AllStarted [⟨0, true, .started⟩] := by simp [Store.AllStarted]
  have pauses : 0 < longest.pollMillis := by decide
  have last : 1 ≤ longest.lastPoll 0 := (lt_lastPoll_iff pauses).mpr (by decide)
  refine ⟨pauses, by decide, pending, ⟨_, rfl, all⟩, _, run_started (i := 1) pauses last ?_ rfl all, rfl,
    by decide⟩
  intro j before
  obtain rfl : j = 0 := Nat.lt_one_iff.mp before
  exact pending

end

end Rotation.ShardWait

end IndicatorFeeds

import IndicatorFeeds.Proofs.Lease.Lasting
import IndicatorFeeds.Runner.Admin

/-!
How long the interval of a schedule is. A schedule is written with a word of 64 bits and a unit; its
length is that number of units. It is judged by this length as long as a span can be that long. A longer
one is refused as too short, or cannot be judged at all.
-/

namespace IndicatorFeeds.Job

open Program

namespace Schedule

variable {s t : Schedule}

/-- The milliseconds between two runs, as the schedule is written. -/
def length (s : Schedule) : Int := s.period.toNat * s.unit.span.millis

/-- What is said of a schedule of less than a day. -/
def tooShort (s : Schedule) : Error :=
  .validation s!"refresh interval must be at least 1 day, got {s.period.toNat} {s.unit.title}"

/-- Why the length of a schedule has it refused, `none` if it does not. -/
def verdict (s : Schedule) : Option Error :=
  if s.length < SpanUnit.days.millis then some s.tooShort else none

/-- The length of the longest span, in milliseconds. -/
def longest : Int := 0x7fffffffffffffff

theorem unit_pos (u : IntervalUnit) : 0 < u.span.millis := by
  cases u <;> decide

private theorem period_le_length (s : Schedule) : (s.period.toNat : Int) ≤ s.length := by
  have longer := Int.mul_le_mul_of_nonneg_left (unit_pos s.unit) (Int.natCast_nonneg s.period.toNat)
  rwa [Int.zero_add, Int.mul_one] at longer

theorem millis_of_interval {span : Span} (interval : s.interval = .ok span) :
    span.millis = signedWord s.period * s.unit.span.millis := by
  unfold Schedule.interval Span.of at interval
  split at interval
  · obtain rfl := Except.ok.inj interval
    rfl
  · cases interval

theorem interval_of_le (fits : s.length ≤ longest) :
    ∃ span, s.interval = .ok span ∧ span.millis = s.length := by
  have small : s.period.toNat < 0x8000000000000000 := by
    have below := s.period_le_length
    unfold longest at fits
    omega
  have value : signedWord s.period * s.unit.span.millis = s.length := by
    rw [signedWord_of_lt small]
    rfl
  have inside : -0x7fffffffffffffff ≤ signedWord s.period * s.unit.span.millis ∧
      signedWord s.period * s.unit.span.millis ≤ 0x7fffffffffffffff := by
    have below := s.period_le_length
    rw [value]
    exact ⟨by omega, fits⟩
  exact ⟨⟨_, inside⟩, dif_pos inside, value⟩

theorem refusal?_of_interval {span : Span} (interval : s.interval = .ok span) :
    s.refusal? = .ok (if span.millis < SpanUnit.days.millis then some s.tooShort else none) := by
  unfold refusal?
  rw [interval]
  show (if span.millis < SpanUnit.days.millis then _ else _ : Except Fault (Option Error)) = _
  split <;> rfl

theorem interval_of_accepted (accepted : s.refusal? = .ok none) :
    ∃ span, s.interval = .ok span ∧ span.millis = s.length := by
  cases interval : s.interval with
  | error f =>
    unfold refusal? at accepted
    rw [interval] at accepted
    cases accepted
  | ok span =>
    refine ⟨span, rfl, ?_⟩
    have millis := millis_of_interval interval
    rw [refusal?_of_interval interval] at accepted
    by_cases small : s.period.toNat < 0x8000000000000000
    · rw [millis, signedWord_of_lt small]
      rfl
    · -- A word that stands for a negative number makes a negative span, which is refused.
      have negative := signedWord_neg (Nat.le_of_not_lt small)
      have short : span.millis < SpanUnit.days.millis := by
        rw [millis]
        exact Int.lt_trans (Int.mul_neg_of_neg_of_pos negative (unit_pos s.unit)) (by decide)
      rw [if_pos short] at accepted
      cases accepted

/-- A schedule is judged by its length just if a span can be that long. -/
theorem refusal?_eq_verdict_iff : s.refusal? = .ok s.verdict ↔ s.length ≤ longest := by
  constructor
  · intro judged
    by_cases short : s.length < SpanUnit.days.millis
    · exact Int.le_trans (Int.le_of_lt short) (by decide)
    · rw [verdict, if_neg short] at judged
      obtain ⟨span, -, millis⟩ := interval_of_accepted judged
      exact millis ▸ span.bounded.2
  · intro fits
    obtain ⟨span, interval, millis⟩ := interval_of_le fits
    rw [refusal?_of_interval interval, millis]
    rfl

/-- A schedule is judged by its length wherever it is checked: by itself, when a job is made, which then
goes on to look for the feed, and when a job is changed, which then goes on to take the lease. -/
structure JudgedByLength (s : Schedule) : Prop where
  alone : s.refusal? = .ok s.verdict
  creating : ∀ (r : Runner) (name : String), checkName name = .ok () →
    match s.verdict with
    | some e => r.createJob name s = Program.error e
    | none => ∃ next, r.createJob name s = .ask (.feedFor name) next
  updating : ∀ (r : Runner) (name : String) (enabled : Option Bool),
    match s.verdict with
    | some e => r.updateJob name ⟨some s, enabled⟩ = Program.error e
    | none => r.updateJob name ⟨some s, enabled⟩ =
        r.underLease name (r.updateHeld name ⟨some s, enabled⟩)

private theorem checkSchedule_of_judged (judged : s.refusal? = .ok s.verdict) :
    Runner.checkSchedule s = match s.verdict with
      | some e => Program.error e
      | none => done () := by
  unfold Runner.checkSchedule
  rw [judged]
  cases s.verdict <;> rfl

theorem judgedByLength_of_alone (alone : s.refusal? = .ok s.verdict) : s.JudgedByLength := by
  have checked := checkSchedule_of_judged alone
  refine ⟨alone, ?_, ?_⟩
  · intro r name named
    unfold Runner.createJob
    rw [named, checked]
    cases s.verdict with
    | some e => rfl
    | none => exact ⟨_, rfl⟩
  · intro r name enabled
    unfold Runner.updateJob
    dsimp only
    rw [checked]
    cases s.verdict <;> rfl

/-- A schedule is judged by its length just if a span can be that long. The intervals of those that are
accepted have their lengths, so that two of them are the same just if the lengths are equal. -/
theorem judgedByLength_iff (s : Schedule) :
    (s.JudgedByLength ↔ s.length ≤ longest) ∧
      (s.refusal? = .ok none → (∃ span, s.interval = .ok span ∧ span.millis = s.length) ∧
        ∀ t : Schedule, t.refusal? = .ok none →
          s.sameInterval t = .ok (decide (s.length = t.length))) := by
  constructor
  · exact ⟨fun judged => refusal?_eq_verdict_iff.mp judged.alone,
      fun fits => judgedByLength_of_alone (refusal?_eq_verdict_iff.mpr fits)⟩
  · intro accepted
    obtain ⟨span, interval, millis⟩ := interval_of_accepted accepted
    refine ⟨⟨span, interval, millis⟩, fun t accepted' => ?_⟩
    obtain ⟨span', interval', millis'⟩ := interval_of_accepted accepted'
    unfold sameInterval
    rw [interval, interval', ← millis, ← millis']
    rfl

private def daily : Schedule := ⟨1, .days, .epoch⟩

private def hourly (hours : UInt64) : Schedule := ⟨hours, .hours, .epoch⟩

/-- A day is as long as 24 hours and not as long as 25. -/
theorem judgedByLength_daily : daily.refusal? = .ok none ∧ (hourly 24).refusal? = .ok none ∧
    (hourly 25).refusal? = .ok none ∧ daily.JudgedByLength ∧
      daily.sameInterval (hourly 24) = .ok true ∧ daily.sameInterval (hourly 25) = .ok false := by
  obtain ⟨judged, same⟩ := judgedByLength_iff daily
  have accepted : daily.refusal? = .ok none := rfl
  exact ⟨accepted, rfl, rfl, judged.mpr (by decide), (same accepted).2 (hourly 24) rfl,
    (same accepted).2 (hourly 25) rfl⟩

/-- The greatest number of minutes, 35 trillion years, is refused as less than a day, and half of it ends
the check with a fault. -/
theorem long_interval_refused :
    SpanUnit.days.millis ≤ length ⟨0xffffffffffffffff, .minutes, .epoch⟩ ∧
      refusal? ⟨0xffffffffffffffff, .minutes, .epoch⟩ = .ok (some (.validation
        "refresh interval must be at least 1 day, got 18446744073709551615 Minutes")) ∧
      ¬JudgedByLength ⟨0xffffffffffffffff, .minutes, .epoch⟩ ∧
      refusal? ⟨0x7fffffffffffffff, .minutes, .epoch⟩ = .error (.spanOverflow .minutes) := by
  refine ⟨by decide, rfl, fun judged => ?_, rfl⟩
  have short := refusal?_eq_verdict_iff.mp judged.alone
  revert short
  decide

end Schedule

end IndicatorFeeds.Job

import IndicatorFeeds.Lease.KeepAlive
import IndicatorFeeds.Proofs.Lease.Passing

/-!
How a lease comes through work that it is kept alive for. The timer rings twice in the time after which
a lease is renewed. A lease that is too young at one ring is old enough at one of the next two, so that
it is written anew before its threshold has passed one and a half times, whenever the timer was started.
-/

namespace IndicatorFeeds

open Store (Memory)
open Program

namespace KeepAlive

section

variable {every work limit : Nat} {cost : Nat → Nat}

/-- A course whose rings are all noticed when they are due, from a time on and with the timer due to ring
at some later one. -/
inductive OnTime (every : Nat) (cost : Nat → Nat) (work : Nat) : Nat → Nat → Course → Prop where
  | done (before : time ≤ due) (ended : work ≤ due) :
      OnTime every cost work time due ⟨[], max time work⟩
  | rings (before : time ≤ due) (going : due ≤ work)
      (rest : OnTime every cost work (due + cost due) (due + every) ⟨renewals, finish⟩) :
      OnTime every cost work time due ⟨due :: renewals, finish⟩

/-- If every renewal takes less than the timer's interval, every ring is noticed on time, whatever comes
first where the work ends at a ring. -/
theorem onTime_courseFrom (quick : ∀ time, cost time < every) (fuel : Nat) (ties : List Bool)
    {time due : Nat} (before : time < due) (enough : work < fuel + due) :
    OnTime every cost work time due (courseFrom every cost work fuel ties time due) := by
  induction fuel generalizing ties time due with
  | zero => exact .done (Nat.le_of_lt before) (by omega)
  | succ fuel ih =>
    have noticed : max time due = due := Nat.max_eq_right (Nat.le_of_lt before)
    have next : nextRing every due due = due + every := if_neg (by omega)
    have quick := quick due
    unfold courseFrom
    dsimp only
    rw [noticed, next]
    split
    · exact .done (Nat.le_of_lt before) (by omega)
    · exact .rings (Nat.le_of_lt before) (by omega) (ih _ (by omega) (by omega))

theorem OnTime.finish {time due : Nat} {course : Course}
    (onTime : OnTime every cost work time due course) (quick : ∀ time, cost time ≤ limit)
    (start : time ≤ work + limit) :
    work ≤ course.finish ∧ course.finish ≤ work + limit := by
  induction onTime with
  | done before ended => exact ⟨Nat.le_max_right _ _, Nat.max_le.mpr ⟨start, Nat.le_add_right _ _⟩⟩
  | rings before going rest ih => exact ih (Nat.add_le_add going (quick _))

end

/-- Waits until the clock reads so much. -/
def await (reading : Nat) : Program Unit := do
  let now ← Program.stopwatch
  Program.request (.sleep (reading - now))

/-- Renews the lease at these times after the start, and then waits for the finish. -/
def follow (started finish : Nat) : List Nat → Program Unit
  | [] => await (started + finish)
  | time :: rest => do
    await (started + time)
    let _ ← Program.request .renewLease
    follow started finish rest

/-- What happens to the lease in the course of work that starts at some reading of the clock. -/
def Course.program (c : Course) (started : Nat) : Program Unit := follow started c.finish c.renewals

end KeepAlive

namespace LeaseService

open KeepAlive

/-- When the stored lease of a resource was written. -/
def writtenAt? (s : LeaseService) (resource : String) (m : Memory) : Option Instant :=
  (m.document? s.index resource).bind fun stored =>
    (LeaseDocument.fromJson? (.ofValue stored.source)).map (·.takenAt)

/-- The lease of a resource stands from one state to another, and is not written later than one and a
half thresholds after it was written before. -/
structure Alive (s : LeaseService) (resource : String) (start : Reading) (x y : Clocked) : Prop where
  unbroken : s.Unbroken resource start x y
  spaced : ∀ t t', s.writtenAt? resource x.store = some t → s.writtenAt? resource y.store = some t' →
    2 * (t'.millis - t.millis) ≤ 3 * s.renewAfter.millis

section

variable {s : LeaseService} {lease : Lease} {start : Reading} {x y : Clocked} {resource : String}

theorem Stored.writtenAt? {m : Memory} (stored : s.Stored lease m) :
    s.writtenAt? lease.resource m = some lease.takenAt.instant := by
  unfold LeaseService.writtenAt?
  rw [stored]
  show (LeaseDocument.fromJson? (.ofValue lease.document.toJson)).map _ = _
  rw [LeaseDocument.fromJson?_toJson]
  rfl

theorem Kept.alive (kept : s.Kept start lease x) (positive : 0 ≤ s.renewAfter.millis)
    (same : y.store = x.store)
    (inside : lease.takenAt.millis + 1000 * lease.durationSecs.toNat ≤ Instant.lastMillis)
    (lasts : start.millis + y.elapsed < lease.takenAt.millis + 1000 * lease.durationSecs.toNat) :
    s.Alive lease.resource start x y where
  unbroken := kept.unbroken same inside lasts
  spaced t t' before after := by
    rw [same, before] at after
    obtain rfl := Option.some.inj after
    omega

/-- A lease that is renewed before it ends stays alive, if no more than one and a half thresholds have
passed since it was written. -/
theorem Rewritten.alive {latency : Nat → Nat} {lease' : Lease}
    (rewritten : s.Rewritten start latency lease x lease' y) (kept : s.Kept start lease x)
    (inside : start.millis + x.elapsed + 1000 * lease.durationSecs.toNat ≤ Instant.lastMillis)
    (lasts : start.millis + y.elapsed < lease.takenAt.millis + 1000 * lease.durationSecs.toNat)
    (soon : 2 * (start.millis + x.elapsed - lease.takenAt.millis) ≤ 3 * s.renewAfter.millis) :
    s.Alive lease.resource start x y where
  unbroken := rewritten.unbroken kept inside lasts
  spaced t t' before after := by
    obtain rfl := Option.some.inj (kept.stored.writtenAt?.symm.trans before)
    have written := rewritten.kept.stored.writtenAt?
    rw [rewritten.resource] at written
    obtain rfl := Option.some.inj (written.symm.trans after)
    have takenAt : lease'.takenAt.instant.millis = _ := rewritten.takenAt.1
    rw [takenAt]
    exact soon

/-- A lease that has not ended by then stays alive while its holder waits. -/
private theorem along_await {latency : Nat → Nat} {reading : Nat} {f : Unit → Program α}
    {ends : Except Failure (Lease × Except Error α) → Clocked → Prop}
    (kept : s.Kept start lease x) (positive : 0 ≤ s.renewAfter.millis) (later : x.elapsed ≤ reading)
    (inside : lease.takenAt.millis + 1000 * lease.durationSecs.toNat ≤ Instant.lastMillis)
    (lasts : start.millis + reading < lease.takenAt.millis + 1000 * lease.durationSecs.toNat)
    (rest : Along (Surroundings.passing start latency) Eq (s.Alive lease.resource start) ends
      (s.holding lease (f ())) { store := x.store, elapsed := reading }) :
    Along (Surroundings.passing start latency) Eq (s.Alive lease.resource start) ends
      (s.holding lease ((await reading).bind f)) x := by
  rintro _ rfl (now : Nat) x ⟨rfl, rfl⟩
  refine ⟨kept.alive positive rfl inside (by omega), ?_⟩
  rintro _ rfl _ y (slept : y = { x with elapsed := x.elapsed + (reading - x.elapsed) })
  rw [Nat.add_sub_cancel' later] at slept
  subst slept
  exact ⟨kept.alive positive rfl inside lasts, rest⟩

/-- A lease stays alive along a course whose rings are noticed on time, if it is no older than one and a
half thresholds when the first of them is due. -/
theorem along_follow {every work started : Nat} {cost : Nat → Nat} {durationSecs : UInt64}
    (halves : 2 * every ≤ s.renewAfter.millis)
    (twice : 2 * s.renewAfter.millis ≤ 1000 * durationSecs.toNat)
    (quick : ∀ time, 2 * cost time < s.renewAfter.millis)
    (inside : start.millis + started + work + 1000 * durationSecs.toNat ≤ Instant.lastMillis)
    {time due : Nat} {course : Course} (onTime : OnTime every cost work time due course)
    (kept : s.Kept start lease x) (same : lease.resource = resource)
    (length : lease.durationSecs = durationSecs)
    (early : lease.takenAt.millis ≤ start.millis + started + work)
    (reached : x.elapsed ≤ started + time)
    (age : 2 * (start.millis + started + due - lease.takenAt.millis) ≤ 3 * s.renewAfter.millis) :
    Along (Surroundings.passing start fun elapsed => cost (elapsed - started)) Eq
      (s.Alive resource start)
      (fun result y => (∃ lease', result = .ok (lease', .ok ()) ∧ s.Kept start lease' y) ∧
        y.elapsed = started + course.finish)
      (s.holding lease (follow started course.finish course.renewals)) x := by
  have positive : 0 < s.renewAfter.millis := by
    have quick := quick 0
    omega
  induction onTime generalizing lease x with
  | @done time due before ended =>
    subst same length
    show Along _ _ _ _ (s.holding lease (await (started + max time work))) x
    rw [← Program.bind_pure (await _)]
    refine along_await kept (by omega) (by omega) (by omega) (by omega) ?_
    exact ⟨⟨lease, rfl, kept.later rfl (by show x.elapsed ≤ started + max time work; omega)⟩, rfl⟩
  | @rings time due renewals finish before going rest ih =>
    subst same length
    refine along_await kept (by omega) (by omega) (by omega) (by omega) ?_
    have kept := kept.later (y := { x with elapsed := started + due }) rfl
      (by show x.elapsed ≤ started + due; omega)
    obtain ⟨threshold, plus, millis, -⟩ := Reading.plus_of_le (r := lease.takenAt)
      (d := s.renewAfter) (by omega) (by omega)
    have quick := quick due
    refine along_bind_iff.mpr (along_renewQuietly_kept kept plus
      (kept.alive (by omega) rfl (by omega) ?_) (fun now told young => ?_)
      fun now lease' y told late rewritten => ?_)
    · show start.millis + (started + due : Nat) < _
      omega
    · have reading : now.millis = start.millis + (started + due : Nat) := told.1
      have young := Reading.millis_le (Int.le_of_lt young)
      refine ih kept rfl rfl early ?_ ?_
      · show started + due ≤ _
        omega
      · omega
    · have forward := rewritten.forward
      have soon := rewritten.soon
      have takenAt := rewritten.takenAt.1
      have reading := told.1
      have late := Reading.millis_le late
      dsimp only at forward soon takenAt reading
      rw [Nat.add_sub_cancel_left] at soon
      refine ⟨rewritten.alive kept ?_ ?_ ?_, ?_⟩
      · show start.millis + (started + due : Nat) + _ ≤ _
        omega
      · omega
      · show 2 * (start.millis + (started + due : Nat) - _) ≤ _
        omega
      · refine ih rewritten.kept rewritten.resource rewritten.duration ?_ ?_ ?_ <;> omega

/-- Work of any length that a lease is kept alive for is noticed to be done within the time that a renewal
takes. Until then the lease stands and is written anew within one and a half thresholds, if it lasts for
two of them, is no older than one when the work begins, and renewals take less than half of one. Time
passes in whole milliseconds here, the grain of timers: a renewal is over at least one of them before the
lease is, which is more than its document leaves out of the time when it was taken. -/
theorem kept_alive_throughout {renewAfterSecs : UInt64}
    (created : seconds renewAfterSecs = .ok s.renewAfter) (second : 1000 ≤ s.renewAfter.millis)
    (twice : 2 * s.renewAfter.millis ≤ 1000 * lease.durationSecs.toNat) {cost : Nat → Nat} {limit : Nat}
    (quick : ∀ time, cost time ≤ limit) (less : 2 * limit < s.renewAfter.millis)
    (kept : s.Kept start lease x)
    (young : start.millis + x.elapsed ≤ lease.takenAt.millis + s.renewAfter.millis) {work : Nat}
    (inside : start.millis + x.elapsed + work + 1000 * lease.durationSecs.toNat ≤ 8210266876799999)
    (ties : List Bool) :
    ∃ course, KeepAlive.course (interval s.renewAfter) cost work ties = .ok course ∧
      work ≤ course.finish ∧ course.finish ≤ work + limit ∧
      Along (Surroundings.passing start fun elapsed => cost (elapsed - x.elapsed)) Eq
        (s.Alive lease.resource start)
        (fun result y => (∃ lease', result = .ok (lease', .ok ()) ∧ s.Kept start lease' y) ∧
          y.elapsed = x.elapsed + course.finish)
        (s.holding lease (course.program x.elapsed)) x := by
  have whole := millis_of_seconds created
  have every : 500 ≤ interval s.renewAfter ∧ 2 * interval s.renewAfter ≤ s.renewAfter.millis ∧
      limit < interval s.renewAfter := by
    unfold interval minInterval
    omega
  obtain ⟨positive, halves, longer⟩ := every
  have onTime : OnTime (interval s.renewAfter) cost work 0 (interval s.renewAfter)
      (courseFrom (interval s.renewAfter) cost work (work + ties.length + 1) ties 0
        (interval s.renewAfter)) :=
    onTime_courseFrom (fun time => Nat.lt_of_le_of_lt (quick time) longer) _ _ (by omega) (by omega)
  obtain ⟨done, noticed⟩ := onTime.finish quick (Nat.zero_le _)
  refine ⟨_, if_neg (by omega), done, noticed, ?_⟩
  have written := kept.written
  have shorter : ∀ time, 2 * cost time < s.renewAfter.millis := fun time => by
    have quick := quick time
    omega
  exact along_follow halves twice shorter inside onTime kept rfl rfl (by omega) (by omega) (by omega)

/-- A lease that is taken for five minutes and renewed after two is kept alive for an hour by renewals
that take half a minute. -/
theorem kept_alive_hour : ∃ course,
    KeepAlive.course 60000 (fun _ => 30000) 3600000 [true] = .ok course ∧
    3600000 ≤ course.finish ∧ course.finish ≤ 3630000 ∧
    Along (Surroundings.passing Sample.may fun _ => 30000) Eq
      (Sample.leases.Alive "feed-x" Sample.may)
      (fun result y => (∃ lease, result = .ok (lease, .ok ()) ∧
        Sample.leases.Kept Sample.may lease y) ∧ y.elapsed = 0 + course.finish)
      (Sample.leases.holding Sample.lease (course.program 0)) Sample.start :=
  kept_alive_throughout (s := Sample.leases) (show seconds 120 = _ from rfl) (by decide) (by decide)
    (fun _ => Nat.le_refl _) (by decide) Sample.kept (by decide) (by decide) [true]

end

end LeaseService

end IndicatorFeeds

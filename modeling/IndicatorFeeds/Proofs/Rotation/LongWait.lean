import IndicatorFeeds.Proofs.Lease.Passing
import IndicatorFeeds.Rotation.ShardWait

/-!
How a lease comes through the wait for shards. The wait renews its lease once between two polls, so that
a lease which has become old enough, and a wait whose time is up, are both noticed at the next poll only.
The lease lasts if it lasts until then, and settings that fit together need not see to that.
-/

namespace IndicatorFeeds

open Store (Memory)
open Program

namespace Rotation.ShardWait

/-- The pause between two polls, in milliseconds. -/
def pause (w : ShardWait) : Nat := min w.pollMillis maxPause

/-- How old a lease gets, in milliseconds, that is new when the wait begins and is renewed from some age
on. -/
def oldest (w : ShardWait) (renewAfter : Nat) : Nat :=
  (min renewAfter w.timeoutMillis + w.pause - 1) / w.pause * w.pause

section

variable {w : ShardWait} {renewAfter i : Nat}

/-- A pause that begins before the lease is to be renewed, and before the time is up, ends when the lease
is the oldest at the latest. -/
theorem le_oldest (begins : i * w.pause < min renewAfter w.timeoutMillis) (positive : 0 < w.pause) :
    (i + 1) * w.pause ≤ w.oldest renewAfter := by
  refine Nat.mul_le_mul_right _ ((Nat.le_div_iff_mul_le positive).mpr ?_)
  rw [Nat.succ_mul]
  omega

/-- There is a pause at the end of which the lease is the oldest, and it begins before. -/
theorem exists_oldest (renews : 0 < renewAfter) (waits : 0 < w.timeoutMillis)
    (positive : 0 < w.pause) : ∃ i, i * w.pause < min renewAfter w.timeoutMillis ∧
      w.oldest renewAfter = (i + 1) * w.pause := by
  have counted : 0 < (min renewAfter w.timeoutMillis + w.pause - 1) / w.pause :=
    Nat.div_pos (by omega) positive
  obtain ⟨i, count⟩ := Nat.exists_eq_succ_of_ne_zero (Nat.ne_of_gt counted)
  refine ⟨i, ?_, by unfold oldest; rw [count]⟩
  have bound := Nat.div_mul_le_self (min renewAfter w.timeoutMillis + w.pause - 1) w.pause
  rw [count, Nat.succ_mul] at bound
  omega

example : oldest ⟨7200000, 5000⟩ 120000 = 120000 := by decide

example : oldest ⟨7200000, 400000⟩ 120000 = 400000 := by decide

end

/-- A wait that begins at some reading of the clock, under leases that last for so many seconds and are
renewed from an age on, all of it before the last instant. -/
structure Timed (w : ShardWait) (s : LeaseService) (start : Reading) (started renewAfter : Nat)
    (durationSecs : UInt64) : Prop where
  threshold : s.renewAfter.millis = renewAfter
  renews : 0 < renewAfter
  shorter : renewAfter ≤ 1000 * durationSecs.toNat
  pauses : 0 < w.pause
  waits : 0 < w.timeoutMillis
  inside : start.millis + started + w.timeoutMillis + 1000 * durationSecs.toNat ≤ Instant.lastMillis

/-- A lease that is held for a wait, at the end of a pause or at the beginning: it is the stored one, has
been written while the wait went on, and has been held for so many pauses since. -/
structure Waiting (w : ShardWait) (s : LeaseService) (start : Reading) (started : Nat)
    (durationSecs : UInt64) (lease : Lease) (x : Clocked) (pauses : Nat) : Prop where
  kept : s.Kept start lease x
  duration : lease.durationSecs = durationSecs
  age : start.millis + x.elapsed = lease.takenAt.millis + pauses * w.pause
  nanos : lease.takenAt.nanos = start.nanos
  within : started + pauses * w.pause ≤ x.elapsed
  during : lease.takenAt.millis < start.millis + started + w.timeoutMillis

section

variable {w : ShardWait} {s : LeaseService} {lease : Lease} {start : Reading} {x : Clocked}
  {index : String} {started renewAfter i polls : Nat} {durationSecs : UInt64}
  (timed : w.Timed s start started renewAfter durationSecs)
  (waiting : w.Waiting s start started durationSecs lease x i)

include waiting in
theorem Waiting.paused : w.Waiting s start started durationSecs lease
    { x with elapsed := x.elapsed + w.pause } (i + 1) where
  kept := waiting.kept.later rfl (Nat.le_add_right _ _)
  duration := waiting.duration
  age := by
    have age := waiting.age
    push_cast
    rw [Int.add_mul]
    omega
  nanos := waiting.nanos
  within := by
    have within := waiting.within
    show _ ≤ x.elapsed + w.pause
    rw [Nat.succ_mul]
    omega
  during := waiting.during

include waiting timed

/-- A lease that is held for a wait covers the time from one poll to another if it has not ended then. -/
theorem Waiting.unbroken {y : Clocked} (same : y.store = x.store)
    (lasts : start.millis + y.elapsed < lease.takenAt.millis + 1000 * durationSecs.toNat) :
    s.Unbroken lease.resource start x y := by
  have during := waiting.during
  have inside := timed.inside
  rw [← waiting.duration] at inside lasts
  exact waiting.kept.unbroken same (by omega) lasts

theorem Waiting.due : ∃ due, lease.takenAt.plus s.renewAfter = .ok due ∧
    due.millis = lease.takenAt.millis + renewAfter ∧ due.nanos = start.nanos := by
  have during := waiting.during
  have threshold := timed.threshold
  have shorter := timed.shorter
  have inside := timed.inside
  obtain ⟨due, sum, millis, nanos⟩ := Reading.plus_of_le (r := lease.takenAt) (d := s.renewAfter)
    (by omega) (by omega)
  exact ⟨due, sum, by rw [millis, threshold], nanos.trans waiting.nanos⟩

/-- What a renewal during a wait comes to: a lease that is held for the wait, and is younger than its
threshold. -/
theorem Waiting.along_renewQuietly (going : x.elapsed - started < w.timeoutMillis)
    (lasts : start.millis + x.elapsed < lease.takenAt.millis + 1000 * durationSecs.toNat) :
    Along (Surroundings.passing start fun _ => 0) Eq (s.Unbroken lease.resource start)
      (fun result y => ∃ lease' j, result = .ok lease' ∧
        w.Waiting s start started durationSecs lease' y j ∧
        j * w.pause < min renewAfter w.timeoutMillis ∧ lease'.resource = lease.resource)
      (s.renewQuietly lease) x := by
  obtain ⟨due, plus, millis, nanos⟩ := waiting.due timed
  have age := waiting.age
  have within := waiting.within
  refine LeaseService.along_renewQuietly_kept waiting.kept plus (waiting.unbroken timed rfl lasts)
    (fun now told early => ?_) fun now lease' y told late rewritten => ?_
  · have early := (told.lt_iff nanos).mp early
    refine ⟨lease, i, rfl, waiting, ?_, rfl⟩
    have young : (i * w.pause : Int) < renewAfter := by omega
    have young : i * w.pause < renewAfter := by exact_mod_cast young
    omega
  · have renews := timed.renews
    have inside := timed.inside
    have forward := rewritten.forward
    have soon := rewritten.soon
    obtain ⟨takenAt, nanos⟩ := rewritten.takenAt
    rw [← waiting.duration] at inside lasts
    refine ⟨rewritten.unbroken waiting.kept (by omega) (by omega), lease', 0, rfl,
      ⟨rewritten.kept, rewritten.duration.trans waiting.duration, ?_, nanos, ?_, ?_⟩, ?_,
      rewritten.resource⟩ <;> omega

private theorem along_poll (outlasts : w.oldest renewAfter < 1000 * durationSecs.toNat)
    (age : i * w.pause ≤ w.oldest renewAfter) :
    Along (Surroundings.passing start fun _ => 0) Eq (s.Unbroken lease.resource start)
      (fun _ _ => True) (s.holding lease (w.poll index started polls)) x := by
  induction polls generalizing lease x i with
  | zero =>
    rintro _ rfl _ _ ⟨-, rfl⟩
    have reached := waiting.age
    exact ⟨waiting.unbroken timed rfl (by omega), trivial⟩
  | succ polls ih =>
    have reached := waiting.age
    have lasts : start.millis + x.elapsed < lease.takenAt.millis + 1000 * durationSecs.toNat := by omega
    have still : s.Unbroken lease.resource start x x := waiting.unbroken timed rfl lasts
    rintro _ rfl (a : Except Store.Error (List Store.ShardStatus)) _ rfl
    refine ⟨still, ?_⟩
    cases a with
    | error => trivial
    | ok shards =>
    show Along _ _ _ _ (s.holding lease (if Store.allShardsStarted shards then _ else _)) _
    split
    · trivial
    rintro _ rfl (reading : Nat) y ⟨rfl, rfl⟩
    refine ⟨still, ?_⟩
    show Along _ _ _ _ (s.holding lease (if w.timeoutMillis ≤ y.elapsed - started then _ else _)) _
    split
    · trivial
    rename_i going
    refine along_bind_iff.mpr ((waiting.along_renewQuietly timed (Nat.lt_of_not_le going)
      lasts).weaken ?_)
    rintro _ z ⟨lease', j, rfl, waiting', begins, same⟩
    have age' := le_oldest begins timed.pauses
    rintro _ rfl _ u (slept : u = { z with elapsed := z.elapsed + w.pause })
    subst slept
    have paused := waiting'.paused
    have reached := paused.age
    rw [← same]
    exact ⟨waiting'.unbroken timed rfl (by omega), ih paused age'⟩

/-- As long as no shard starts, and the lease is young and the time is not up, there is another pause. -/
private theorem Waiting.pauses (begins : i * w.pause < min renewAfter w.timeoutMillis)
    (reading : x.elapsed = started + i * w.pause)
    (along : Along (Surroundings.passing start fun _ => 0) Eq (s.Unbroken lease.resource start)
      (fun _ _ => True) (s.holding lease (w.poll index started (polls + 1))) x) :
    s.Unbroken lease.resource start x { x with elapsed := x.elapsed + w.pause } ∧
      Along (Surroundings.passing start fun _ => 0) Eq (s.Unbroken lease.resource start)
        (fun _ _ => True) (s.holding lease (w.poll index started polls))
        { x with elapsed := x.elapsed + w.pause } := by
  have age := waiting.age
  have young : (i * w.pause : Int) < renewAfter := by
    have young : i * w.pause < renewAfter := by omega
    exact_mod_cast young
  have now : ∃ now, x.Shows start now := by
    have shorter := timed.shorter
    have inside := timed.inside
    obtain ⟨now, millis⟩ := start.instant.exists_of_le (start.millis + x.elapsed)
      (by unfold Reading.millis; omega) (by omega)
    exact ⟨⟨now, start.nanos, start.below⟩, millis, rfl⟩
  obtain ⟨now, told⟩ := now
  obtain ⟨due, plus, millis, nanos⟩ := waiting.due timed
  have early : now < due := (told.lt_iff nanos).mpr (by omega)
  have asked := (along x rfl (.ok []) x rfl).2
  have read := (asked x rfl x.elapsed x ⟨rfl, rfl⟩).2
  change Along _ _ _ _
    (s.holding lease (if w.timeoutMillis ≤ x.elapsed - started then _ else _)) x at read
  rw [if_neg (by omega)] at read
  have renewed := LeaseService.along_renewQuietly_young (along_bind_iff.mp read) plus told early
  exact renewed x rfl () _ rfl

/-- If no shard starts, the lease is not renewed until it is the oldest. -/
private theorem Waiting.lapses {k : Nat} (begins : k * w.pause < min renewAfter w.timeoutMillis)
    (ends : 1000 * durationSecs.toNat ≤ (k + 1) * w.pause) (more : Nat) (enough : more < polls)
    (left : i + more = k) (reading : x.elapsed = started + i * w.pause) :
    ¬Along (Surroundings.passing start fun _ => 0) Eq (s.Unbroken lease.resource start)
      (fun _ _ => True) (s.holding lease (w.poll index started polls)) x := by
  intro along
  obtain ⟨polls, rfl⟩ := Nat.exists_eq_succ_of_ne_zero (Nat.ne_zero_of_lt enough)
  induction more generalizing x i polls with
  | zero =>
    obtain rfl : i = k := left
    obtain ⟨unbroken, -⟩ := waiting.pauses timed begins reading along
    have age := waiting.age
    have shorter := timed.shorter
    -- The lease is over at this instant, which comes before the pause is over.
    have during := waiting.during
    have inside := timed.inside
    obtain ⟨stop, millis⟩ := lease.takenAt.instant.exists_of_le
      (lease.takenAt.millis + 1000 * durationSecs.toNat)
      (by unfold Reading.millis; omega) (by omega)
    have millis : (Reading.whole stop).millis = _ := millis
    have written : lease.takenAt.millis ≤ (Reading.whole stop).millis := by omega
    have young : i * w.pause < 1000 * durationSecs.toNat := by omega
    have before : (Reading.whole stop).millis ≤ start.millis + (x.elapsed + w.pause : Nat) := by
      rw [Nat.succ_mul i] at ends
      omega
    have stands := (unbroken (.whole stop) (by omega) before).1
    have live := ((waiting.kept.stored.stands_iff written).mp stands).2
    rw [waiting.duration] at live
    omega
  | succ more ih =>
    obtain ⟨polls, rfl⟩ := Nat.exists_eq_succ_of_ne_zero (n := polls) (by omega)
    have before : i * w.pause ≤ k * w.pause := Nat.mul_le_mul_right _ (by omega)
    obtain ⟨-, rest⟩ := waiting.pauses timed (by omega) reading along
    refine ih waiting.paused (by omega) ?_ polls (by omega) rest
    show x.elapsed + w.pause = _
    rw [Nat.succ_mul]
    omega

end

theorem run_eq (w : ShardWait) (index : String) : ∃ polls, w.timeoutMillis < polls ∧
    w.run index = .ask .stopwatch fun started => w.poll index started polls :=
  ⟨_, Nat.lt_add_of_pos_right (by decide), rfl⟩

/-- A lease that is new when a wait begins stands until the wait is over, whatever the shards do, just if
it lasts longer than it gets old. -/
theorem unbroken_iff {w : ShardWait} {s : LeaseService} {lease : Lease} {start : Reading} {x : Clocked}
    {renewAfter : Nat} (timed : w.Timed s start x.elapsed renewAfter lease.durationSecs)
    (kept : s.Kept start lease x) (new : x.Shows start lease.takenAt) (index : String) :
    Along (Surroundings.passing start fun _ => 0) Eq (s.Unbroken lease.resource start)
        (fun _ _ => True) (s.holding lease (w.run index)) x ↔
      w.oldest renewAfter < 1000 * lease.durationSecs.toNat := by
  have waits := timed.waits
  have written := new.1
  have waiting : w.Waiting s start x.elapsed lease.durationSecs lease x 0 :=
    ⟨kept, rfl, by omega, new.2, by omega, by omega⟩
  obtain ⟨k, begins, oldest⟩ := exists_oldest timed.renews timed.waits timed.pauses
  obtain ⟨polls, enough, run⟩ := w.run_eq index
  rw [run]
  constructor
  · intro along
    have polled := (along x rfl x.elapsed x ⟨rfl, rfl⟩).2
    have few : k ≤ k * w.pause := Nat.le_mul_of_pos_right k timed.pauses
    exact Nat.lt_of_not_le fun ends => waiting.lapses timed begins (oldest ▸ ends) k (by omega)
      (Nat.zero_add k) (by omega) polled
  · rintro outlasts _ rfl (reading : Nat) y ⟨rfl, rfl⟩
    exact ⟨waiting.unbroken timed rfl (by omega), along_poll timed waiting outlasts (by omega)⟩

end Rotation.ShardWait

namespace Config.EngineConfig

open Rotation (ShardWait)

variable {c : EngineConfig} {s : LeaseService} {lease : Lease} {start : Reading} {x : Clocked}

theorem wait_of_validate (valid : c.validate = .ok ()) :
    0 < (ShardWait.ofConfig c.rotation).pause ∧ 0 < (ShardWait.ofConfig c.rotation).timeoutMillis := by
  obtain ⟨-, -, -, pauses, shorter, -⟩ := validate_eq_ok_iff.mp valid
  have pauses : 0 < c.rotation.shardPollIntervalMillis.toNat :=
    Nat.pos_of_ne_zero fun zero => pauses (UInt64.toNat_inj.mp zero)
  have shorter : c.rotation.shardPollIntervalMillis.toNat < c.rotation.shardWaitTimeoutMillis.toNat :=
    UInt64.lt_iff_toNat_lt.mp shorter
  exact ⟨Nat.lt_min.mpr ⟨pauses, by decide⟩, Nat.zero_lt_of_lt shorter⟩

/-- Settings that fit together let a lease that is new when the wait for shards begins stand until the
wait is over just if it lasts longer than it gets old. -/
theorem outlasts_wait_iff (valid : c.validate = .ok ()) {id : Nat}
    (created : LeaseService.create id c.store.leases c.lease.renewAfterSecs = .ok s)
    (kept : s.Kept start lease x) (new : x.Shows start lease.takenAt)
    (length : lease.durationSecs = c.lease.durationSecs)
    (inside : start.millis + x.elapsed + c.rotation.shardWaitTimeoutMillis.toNat +
      1000 * c.lease.durationSecs.toNat ≤ 8210266876799999) (index : String) :
    Along (Surroundings.passing start fun _ => 0) Eq (s.Unbroken lease.resource start)
        (fun _ _ => True) (s.holding lease ((ShardWait.ofConfig c.rotation).run index)) x ↔
      (ShardWait.ofConfig c.rotation).oldest (1000 * c.lease.renewAfterSecs.toNat) <
        1000 * c.lease.durationSecs.toNat := by
  obtain ⟨renews, long⟩ := lease_of_validate valid
  obtain ⟨pauses, waits⟩ := wait_of_validate valid
  have size : UInt64.size = 2 ^ 64 := rfl
  have begun := start.instant.bounded.1
  unfold Reading.millis at inside
  obtain ⟨span, seconds, millis⟩ := seconds_of_le c.lease.renewAfterSecs (by omega)
  unfold LeaseService.create at created
  rw [seconds] at created
  obtain rfl := Except.ok.inj created
  rw [← length] at inside long ⊢
  refine ShardWait.unbroken_iff ⟨?_, by omega, by omega, pauses, waits, inside⟩ kept new index
  rw [millis]
  rfl

/-- With the default settings a lease outlasts the wait for shards. -/
theorem outlasts_wait_default : ({} : EngineConfig).validate = .ok () ∧
    Along (Surroundings.passing Sample.may fun _ => 0) Eq
      (Sample.leases.Unbroken "feed-x" Sample.may) (fun _ _ => True)
      (Sample.leases.holding Sample.lease ((ShardWait.ofConfig {}).run "feed-x-1")) Sample.start :=
  have created : LeaseService.create 0 ({} : EngineConfig).store.leases
      ({} : EngineConfig).lease.renewAfterSecs = .ok Sample.leases := rfl
  ⟨rfl, (outlasts_wait_iff rfl created Sample.kept ⟨rfl, rfl⟩ rfl (by decide) "feed-x-1").mpr (by decide)⟩

private def seldom : EngineConfig := { rotation := { shardPollIntervalMillis := 400000 } }

/-- Settings that fit together may let a lease lapse during a pause between two polls. -/
theorem lease_lapses_between_polls : seldom.validate = .ok () ∧
    LeaseService.create 0 seldom.store.leases seldom.lease.renewAfterSecs = .ok Sample.leases ∧
    Sample.lease.durationSecs = seldom.lease.durationSecs ∧
    ¬Along (Surroundings.passing Sample.may fun _ => 0) Eq
      (Sample.leases.Unbroken "feed-x" Sample.may) (fun _ _ => True)
      (Sample.leases.holding Sample.lease ((ShardWait.ofConfig seldom.rotation).run "feed-x-1"))
      Sample.start := by
  refine ⟨rfl, rfl, rfl, fun along => ?_⟩
  have timed : (ShardWait.ofConfig seldom.rotation).Timed Sample.leases Sample.may
      Sample.start.elapsed 120000 Sample.lease.durationSecs :=
    ⟨rfl, by decide, by decide, by decide, by decide, by decide⟩
  have outlasts := (ShardWait.unbroken_iff timed Sample.kept ⟨rfl, rfl⟩ "feed-x-1").mp along
  revert outlasts
  decide

end Config.EngineConfig

end IndicatorFeeds

import IndicatorFeeds.Proofs.Lease.Lasting

namespace IndicatorFeeds

open Store (Memory)
open Program

/-- A store, and what a clock reads, in milliseconds. -/
structure Clocked where
  store : Memory
  elapsed : Nat

/-- What is the time in some state, if it is `start` when the clock reads nothing. -/
def Clocked.Shows (x : Clocked) (start now : Reading) : Prop :=
  now.millis = start.millis + x.elapsed ∧ now.nanos = start.nanos

theorem Clocked.Shows.lt_iff {x : Clocked} {start now due : Reading} (told : x.Shows start now)
    (same : due.nanos = start.nanos) : now < due ↔ start.millis + x.elapsed < due.millis := by
  obtain ⟨millis, nanos⟩ := told
  rw [Reading.lt_iff, same, nanos, millis]
  omega

/-- Surroundings in which time passes, in whole milliseconds, and nobody else writes. It is `start` when
the clock reads nothing, and a call on the store that is made at some reading takes at most `latency`
then. The states of shards may be any, and take no time. -/
def Surroundings.passing (start : Reading) (latency : Nat → Nat) : Surroundings Clocked
  | .store (.shardStates _), x, _, y => y = x
  | .store c, x, a, y => x.store.answer c = (a, y.store) ∧
      x.elapsed ≤ y.elapsed ∧ y.elapsed ≤ x.elapsed + latency x.elapsed
  | .now, x, (now : Reading), y => x.Shows start now ∧ y = x
  | .stopwatch, x, (reading : Nat), y => reading = x.elapsed ∧ y = x
  | .sleep millis, x, _, y => y = { x with elapsed := x.elapsed + millis }
  | _, x, _, y => y = x

namespace LeaseService

variable {s : LeaseService} {lease : Lease} {start : Reading} {latency : Nat → Nat} {x y : Clocked}
  {due : Reading} {own : Clocked → Clocked → Prop}

/-- At every instant from one state to another the lease of a resource stands, in the store as it was
and in the store as it is then, so that nobody else can take it. -/
def Unbroken (s : LeaseService) (resource : String) (start : Reading) (x y : Clocked) : Prop :=
  ∀ t : Reading, start.millis + x.elapsed ≤ t.millis → t.millis ≤ start.millis + y.elapsed →
    s.Stands resource t x.store ∧ s.Stands resource t y.store

/-- A lease is the stored one, has been written by now, and its index takes writes. -/
structure Kept (s : LeaseService) (start : Reading) (lease : Lease) (x : Clocked) : Prop where
  stored : s.Stored lease x.store
  writable : x.store.isBlocked s.index = false
  written : lease.takenAt.millis ≤ start.millis + x.elapsed

theorem Kept.later (kept : s.Kept start lease x) (same : y.store = x.store)
    (later : x.elapsed ≤ y.elapsed) : s.Kept start lease y where
  stored := same ▸ kept.stored
  writable := same ▸ kept.writable
  written := by
    have written := kept.written
    omega

theorem Kept.unbroken (kept : s.Kept start lease x) (same : y.store = x.store)
    (inside : lease.takenAt.millis + 1000 * lease.durationSecs.toNat ≤ Instant.lastMillis)
    (lasts : start.millis + y.elapsed < lease.takenAt.millis + 1000 * lease.durationSecs.toNat) :
    s.Unbroken lease.resource start x y := by
  intro t after before
  have stands : s.Stands lease.resource t x.store :=
    (kept.stored.stands_iff (Int.le_trans kept.written after)).mpr ⟨inside, by omega⟩
  exact ⟨stands, same ▸ stands⟩

/-- The lease is written anew, with the time at which this began. -/
structure Rewritten (s : LeaseService) (start : Reading) (latency : Nat → Nat) (lease : Lease)
    (x : Clocked) (lease' : Lease) (y : Clocked) : Prop where
  kept : s.Kept start lease' y
  resource : lease'.resource = lease.resource
  duration : lease'.durationSecs = lease.durationSecs
  takenAt : x.Shows start lease'.takenAt
  forward : x.elapsed ≤ y.elapsed
  soon : y.elapsed ≤ x.elapsed + latency x.elapsed

/-- Both the lease that was and the one that is written cover the time that the writing takes. -/
theorem Rewritten.unbroken {lease' : Lease} (rewritten : s.Rewritten start latency lease x lease' y)
    (kept : s.Kept start lease x)
    (inside : start.millis + x.elapsed + 1000 * lease.durationSecs.toNat ≤ Instant.lastMillis)
    (lasts : start.millis + y.elapsed < lease.takenAt.millis + 1000 * lease.durationSecs.toNat) :
    s.Unbroken lease.resource start x y := by
  intro t after before
  have written := kept.written
  have takenAt := rewritten.takenAt.1
  have stands : s.Stands lease.resource t x.store :=
    (kept.stored.stands_iff (Int.le_trans written after)).mpr ⟨by omega, by omega⟩
  have stands' : s.Stands lease'.resource t y.store := by
    refine (rewritten.kept.stored.stands_iff (Int.le_trans (Int.le_of_eq takenAt) after)).mpr ?_
    rw [rewritten.duration]
    exact ⟨by omega, by omega⟩
  exact ⟨stands, rewritten.resource ▸ stands'⟩

/-- What a renewal asks for, if the time at which the lease is due for one can be reckoned with. -/
theorem renewQuietly_eq (threshold : lease.takenAt.plus s.renewAfter = .ok due) :
    s.renewQuietly lease = Program.clock.bind fun now =>
      if now < due then .done lease
      else (Program.call (.putDocument s.index lease.resource
        (LeaseDocument.toJson ⟨lease.resource, now.instant, lease.durationSecs⟩)
          (.ifVersion lease.version))).bind fun written => .done (written.toOption.elim lease fun version =>
          { lease with takenAt := now, version }) := by
  unfold renewQuietly renew
  rw [threshold]
  refine congrArg (Program.ask .now) (funext fun (now : Reading) => ?_)
  show (Program.attempt (if now < due then Program.done lease else _)).bind _ =
    (if now < due then _ else _)
  split
  · rfl
  · refine congrArg (Program.ask (.store (.putDocument ..)))
      (funext fun (written : Except Store.Error Store.Version) => ?_)
    cases written with
    | ok => rfl
    | error e => cases e <;> rfl

/-- The holder's version is the stored one, so that a write which names it is refused by a block only. -/
theorem Kept.put {source : Json.Value} {a : Except Store.Error Store.Version} {m : Memory}
    (kept : s.Kept start lease x) (answered : x.store.answer
      (.putDocument s.index lease.resource source (.ifVersion lease.version)) = (a, m)) :
    a = .ok (Memory.version (x.store.lastSeqNo + 1)) ∧ m = x.store.write s.index lease.resource source := by
  have accepted : Memory.refusal? s.index lease.resource
      ((x.store.document? s.index lease.resource).map (·.version)) (.ifVersion lease.version) = none := by
    rw [kept.stored]
    simp [Memory.refusal?]
  rcases Memory.putDocument_cases answered with ⟨version, rfl, written⟩ | ⟨e, -, refused, -⟩
  · obtain ⟨-, -, rfl, rfl⟩ := Memory.putDocument_eq_ok_iff.mp written
    exact ⟨rfl, rfl⟩
  · rcases Memory.putDocument_eq_error_iff.mp refused with refusal | ⟨-, blocked, -⟩
    · cases accepted.symm.trans refusal
    · cases kept.writable.symm.trans blocked

/-- A lease that is young stays as it is, and one that is not is written anew. -/
theorem along_renewQuietly_kept {ends : Except Failure Lease → Clocked → Prop}
    (kept : s.Kept start lease x) (threshold : lease.takenAt.plus s.renewAfter = .ok due)
    (still : own x x) (young : ∀ now, x.Shows start now → now < due → ends (.ok lease) x)
    (old : ∀ now lease' y, x.Shows start now → due ≤ now →
      s.Rewritten start latency lease x lease' y → own x y ∧ ends (.ok lease') y) :
    Along (Surroundings.passing start latency) Eq own ends (s.renewQuietly lease) x := by
  rw [renewQuietly_eq threshold]
  rintro _ rfl (now : Reading) y ⟨told, rfl⟩
  refine ⟨still, ?_⟩
  show Along _ _ _ _ (if now < due then _ else _) y
  by_cases early : now < due
  · rw [if_pos early]
    exact young now told early
  rw [if_neg early]
  rintro _ rfl a z ⟨answered, forward, soon⟩
  obtain ⟨rfl, same⟩ := kept.put answered
  refine old now { lease with takenAt := now, version := _ } z told (Int.not_lt.mp early)
    ⟨⟨?_, ?_, ?_⟩, rfl, rfl, told, forward, soon⟩
  · unfold Stored
    rw [same]
    exact Memory.document?_write_self _ _ _ _
  · rw [same, Memory.isBlocked_write]
    exact kept.writable
  · show now.millis ≤ _
    have told := told.1
    omega

/-- The renewal of a young lease goes on at once. -/
theorem along_renewQuietly_young {ends : Except Failure Lease → Clocked → Prop}
    (along : Along (Surroundings.passing start latency) Eq own ends (s.renewQuietly lease) x)
    (threshold : lease.takenAt.plus s.renewAfter = .ok due) {now : Reading}
    (told : x.Shows start now) (early : now < due) : ends (.ok lease) x := by
  rw [renewQuietly_eq threshold] at along
  have rest := (along x rfl now x ⟨told, rfl⟩).2
  change Along _ _ _ _ (if now < due then Program.done lease else _) x at rest
  rw [if_pos early] at rest
  exact rest

end LeaseService

namespace Sample

/-- A lease that has been taken on the first of May 2024. -/
def lease : Lease := ⟨"feed-x", may, 300, Memory.version (Memory.empty.lastSeqNo + 1)⟩

/-- A store with nothing but this lease. -/
def start : Clocked := ⟨Memory.empty.write leases.index lease.resource lease.document.toJson, 0⟩

theorem kept : leases.Kept may lease start where
  stored := Memory.document?_write_self _ _ _ _
  writable := by
    rw [start, Memory.isBlocked_write]
    rfl
  written := by decide

end Sample

end IndicatorFeeds

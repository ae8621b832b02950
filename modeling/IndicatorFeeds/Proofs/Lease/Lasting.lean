import IndicatorFeeds.Proofs.Lease.Standing
import IndicatorFeeds.Proofs.Lease.Tenancy
import IndicatorFeeds.Runner.Basic

/-!
How long leases last. A lease that is written at a time is live until so many seconds have passed, if
the instant when they have passed is one; otherwise it is over at once, or whoever looks at it fails.
Settings that fit together do not see to that.
-/

namespace IndicatorFeeds

open Store (Memory)
open Program

/-- The last instant, in milliseconds. -/
def Instant.lastMillis : Int := 8210266876799999

theorem Instant.le_lastMillis (t : Instant) : t.millis ≤ lastMillis := t.bounded.2

theorem Instant.exists_of_le (t : Instant) (millis : Int) (after : t.millis ≤ millis)
    (inside : millis ≤ lastMillis) : ∃ later : Instant, later.millis = millis :=
  ⟨⟨millis, Int.le_trans t.bounded.1 after, inside⟩, rfl⟩

section

variable {word : UInt64}

theorem signedWord_of_lt (small : word.toNat < 0x8000000000000000) : signedWord word = word.toNat := by
  have bits : signedWord word = word.toBitVec.toInt := rfl
  rw [bits, BitVec.toInt_eq_toNat_of_lt]
  · rfl
  · show 2 * word.toNat < 2 ^ 64
    omega

theorem signedWord_neg (large : 0x8000000000000000 ≤ word.toNat) : signedWord word < 0 := by
  have bits : signedWord word = word.toBitVec.toInt := rfl
  have below : word.toBitVec.toNat < 2 ^ 64 := word.toBitVec.isLt
  have same : word.toBitVec.toNat = word.toNat := rfl
  rw [bits, BitVec.toInt_eq_toNat_cond]
  split <;> omega

/-- A word that stands for a positive number stands for itself. -/
theorem toNat_of_signedWord_pos (positive : 0 < signedWord word) :
    signedWord word = word.toNat := by
  by_cases small : word.toNat < 0x8000000000000000
  · exact signedWord_of_lt small
  · have negative := signedWord_neg (Nat.le_of_not_lt small)
    omega

theorem millis_of_seconds {span : Span} (length : seconds word = .ok span) :
    span.millis = signedWord word * 1000 := by
  unfold seconds Span.of at length
  split at length
  · obtain rfl := Except.ok.inj length
    rfl
  · cases length

theorem seconds_of_le (word : UInt64) (short : 1000 * word.toNat ≤ 0x7fffffffffffffff) :
    ∃ span, seconds word = .ok span ∧ span.millis = 1000 * word.toNat := by
  have value : signedWord word = word.toNat := signedWord_of_lt (by omega)
  have inside : -0x7fffffffffffffff ≤ signedWord word * SpanUnit.seconds.millis ∧
      signedWord word * SpanUnit.seconds.millis ≤ 0x7fffffffffffffff := by
    rw [value]
    show _ ≤ (word.toNat : Int) * 1000 ∧ (word.toNat : Int) * 1000 ≤ _
    omega
  have length : seconds word = .ok ⟨_, inside⟩ := dif_pos inside
  refine ⟨_, length, ?_⟩
  rw [millis_of_seconds length, value]
  omega

end

theorem Instant.plus_of_le {t : Instant} {d : Span} (forward : 0 ≤ d.millis)
    (inside : t.millis + d.millis ≤ lastMillis) :
    ∃ later, t.plus d = .ok later ∧ later.millis = t.millis + d.millis := by
  have bounded : -8334601228800000 ≤ t.millis + d.millis ∧
      t.millis + d.millis ≤ 8210266876799999 := by
    have start := t.bounded.1
    exact ⟨by omega, inside⟩
  refine ⟨⟨_, bounded⟩, ?_, rfl⟩
  unfold plus ofMillis?
  rw [dif_pos bounded]

theorem Reading.plus_of_le {r : Reading} {d : Span} (forward : 0 ≤ d.millis)
    (inside : r.millis + d.millis ≤ Instant.lastMillis) :
    ∃ later, r.plus d = .ok later ∧ later.millis = r.millis + d.millis ∧ later.nanos = r.nanos := by
  obtain ⟨later, sum, millis⟩ := Instant.plus_of_le forward inside
  exact ⟨⟨later, r.nanos, r.below⟩, plus_eq_ok_iff.mpr ⟨sum, rfl⟩, millis, rfl⟩

section

variable {takenAt : Instant} {now : Reading} {durationSecs : UInt64}

theorem leaseEnd_of_le (inside : takenAt.millis + 1000 * durationSecs.toNat ≤ Instant.lastMillis) :
    ∃ stop, leaseEnd takenAt durationSecs = .ok stop ∧
      stop.millis = takenAt.millis + 1000 * durationSecs.toNat := by
  have start := takenAt.bounded.1
  unfold Instant.lastMillis at inside
  obtain ⟨span, length, millis⟩ := seconds_of_le durationSecs (by omega)
  obtain ⟨stop, sum, stopMillis⟩ := Instant.plus_of_le (t := takenAt) (d := span) (by omega)
    (by unfold Instant.lastMillis; omega)
  refine ⟨stop, ?_, stopMillis.trans (by rw [millis])⟩
  unfold leaseEnd
  rw [length]
  exact sum

/-- From the time when it is written on, a lease is live until its seconds have passed, as long as
they pass at some instant. -/
theorem LeaseDocument.live_iff {d : LeaseDocument} (written : d.takenAt.millis ≤ now.millis) :
    d.isLive now = .ok true ↔
      d.takenAt.millis + 1000 * d.durationSecs.toNat ≤ Instant.lastMillis ∧
        now.millis < d.takenAt.millis + 1000 * d.durationSecs.toNat := by
  unfold isLive
  constructor
  · intro live
    cases ends : leaseEnd d.takenAt d.durationSecs with
    | error f =>
      rw [ends] at live
      cases live
    | ok stop =>
      have before : now < .whole stop := by
        simpa [ends, Bind.bind, Except.bind, pure, Except.pure] using live
      have before : now.millis < stop.millis := Reading.lt_whole_iff.mp before
      have inside : stop.millis ≤ Instant.lastMillis := stop.le_lastMillis
      unfold leaseEnd at ends
      cases length : seconds d.durationSecs with
      | error f =>
        rw [length] at ends
        cases ends
      | ok span =>
        rw [length] at ends
        have sum : stop.millis = d.takenAt.millis + span.millis := Instant.millis_of_plus ends
        have millis := millis_of_seconds length
        have value : signedWord d.durationSecs = d.durationSecs.toNat :=
          toNat_of_signedWord_pos (by omega)
        omega
  · rintro ⟨inside, before⟩
    obtain ⟨stop, ends, millis⟩ := leaseEnd_of_le inside
    have before : now < .whole stop := by
      refine Reading.lt_whole_iff.mpr ?_
      show now.millis < stop.millis
      omega
    simp [ends, Bind.bind, Except.bind, pure, Except.pure, before]

end

namespace Sample

private theorem may_bounded :
    -8334601228800000 ≤ (1714521600000 : Int) ∧ (1714521600000 : Int) ≤ 8210266876799999 := by
  decide

/-- The first of May 2024. -/
def may : Reading := .whole ⟨1714521600000, may_bounded⟩

private theorem twoMinutes_bounded :
    -0x7fffffffffffffff ≤ (120000 : Int) ∧ (120000 : Int) ≤ 0x7fffffffffffffff := by
  decide

/-- The leases of the default settings. -/
def leases : LeaseService := ⟨0, ".threatintel-job-locks", ⟨120000, twoMinutes_bounded⟩⟩

end Sample

namespace LeaseService

variable {s : LeaseService} {lease : Lease} {m : Memory} {now : Reading}

theorem Stored.stands_iff (stored : s.Stored lease m)
    (written : lease.takenAt.millis ≤ now.millis) :
    s.Stands lease.resource now m ↔
      lease.takenAt.millis + 1000 * lease.durationSecs.toNat ≤ Instant.lastMillis ∧
        now.millis < lease.takenAt.millis + 1000 * lease.durationSecs.toNat := by
  have decoded := LeaseDocument.fromJson?_toJson lease.document
  refine Iff.trans ⟨?_, fun live => ⟨_, lease.document, stored, decoded, live⟩⟩
    (LeaseDocument.live_iff (d := lease.document) written)
  rintro ⟨found, document, there, decoded', live⟩
  obtain rfl := Option.some.inj (stored.symm.trans there)
  obtain rfl := Option.some.inj (decoded.symm.trans decoded')
  exact live

/-- Whoever takes a lease of this length at a time keeps everyone else from taking it until so many
nanoseconds after the epoch, whatever else becomes of the store. -/
def Exclusive (durationSecs : UInt64) (t : Reading) (stop : Int) : Prop :=
  ∀ (s other : LeaseService) (allows allows' : (r : Request) → r.Answer → Prop) (resource : String)
    (otherSecs : UInt64) (m m' : Memory) (lease : Lease) (y z : Moment)
    (result : Except Failure (Option Lease)) (now : Reading),
    Ends (Moment.surroundings allows).noting (s.acquire resource durationSecs) (.start m, none)
      (.ok (some lease)) (y, some t) →
    other.index = s.index →
    m'.document? s.index resource = y.store.document? s.index resource →
    Ends (Moment.surroundings allows').noting (other.acquire resource otherSecs) (.start m', none)
      result (z, some now) →
    t ≤ now → now.total < stop → result = .ok none

section

variable {durationSecs : UInt64} {t : Reading} {stop : Int}

private theorem exclusive_of_le
    (inside : t.millis + 1000 * durationSecs.toNat ≤ Instant.lastMillis)
    (short : stop ≤ 1000000 * (t.millis + 1000 * durationSecs.toNat)) :
    Exclusive durationSecs t stop := by
  intro s other allows allows' resource otherSecs m m' lease y z result now took index same again
    after before
  have before : now.millis < t.millis + 1000 * durationSecs.toNat := by
    unfold Reading.total at before
    omega
  have standing : s.Stands resource now m' := by
    cases (along_acquire_tried s resource durationSecs (.start m)).ended took with
    | taken free stored =>
      exact ((stored.stands_iff (Reading.millis_le after)).mpr ⟨inside, before⟩).congr same
  have stands : other.Stands resource now m' := by
    unfold Stands
    rw [index]
    exact standing
  rcases ((along_acquire_tried other resource otherSecs (.start m')).ended again).standing with
    ⟨untold, -⟩ | ⟨now', told, away⟩
  · cases untold
  · obtain rfl := Option.some.inj told
    exact away.mpr stands

/-- Nothing is answered but the time, and always the same. -/
private def answersAt (t : Reading) : (r : Request) → r.Answer
  | .store c => (Memory.empty.answer c).1
  | .http _ => none
  | .feedFor _ => .ok none
  | .file _ => .directory
  | .now => t
  | .leaseIndexReady _ => false
  | .stopwatch | .rings => (0 : Nat)
  | .sleep _ | .turn | .renewLease | .markLeaseIndexReady _ => ()

private def At (t : Reading) (r : Request) (a : r.Answer) : Prop := a = answersAt t r

private theorem ends_at (t : Reading) (p : Program α) (m : Memory) :
    ∃ result y, Ends (Moment.surroundings (At t)).noting p (.start m, none) result y := by
  have allowed : ∀ r x, Moment.surroundings (At t) r x (Moment.answeredBy (answersAt t) r x).1
      (Moment.answeredBy (answersAt t) r x).2 := by
    intro r x
    cases r with
    | store c => exact ⟨_, rfl, rfl⟩
    | _ => exact ⟨rfl, rfl⟩
  exact ⟨_, _, ends_run (Surroundings.noted_allowed allowed) p (.start m, none)⟩

private theorem told_at {p : Program α} {m : Memory} {result : Except Failure α}
    {y : Moment × Option Reading}
    (ended : Ends (Moment.surroundings (At t)).noting p (.start m, none) result y)
    (told : y.2 = some now) : now = t := by
  have keeps : ∀ r (x : Moment × Option Reading) a y, True → (∀ now, x.2 = some now → now = t) →
      (Moment.surroundings (At t)).noting r x a y → ∀ now, y.2 = some now → now = t := by
    intro r x a y _ before answered now told
    by_cases asks : r = .now
    · subst asks
      obtain ⟨⟨same, -⟩, first⟩ := answered
      cases known : x.2 with
      | none =>
        rw [known] at first
        exact (Option.some.inj (told.symm.trans first)).trans same
      | some earlier =>
        rw [known] at first
        obtain rfl := Option.some.inj (told.symm.trans first)
        exact before _ known
    · obtain ⟨-, still⟩ := (Surroundings.noting_of_ne asks).mp answered
      exact before now (still ▸ told)
  have told_only := (asks_trivial p).ending
    (fun y : Moment × Option Reading => ∀ now, y.2 = some now → now = t) keeps
    (s := (.start m, none)) fun _ untold => by cases untold
  exact told_only.ended ended now told

private theorem taken_at (s : LeaseService) (resource : String) (durationSecs : UInt64)
    (t : Reading) : ∃ version y,
      Ends (Moment.surroundings (At t)).noting (s.acquire resource durationSecs) (.start .empty, none)
        (.ok (some ⟨resource, t, durationSecs, version⟩)) (y, some t) ∧
      s.Stored ⟨resource, t, durationSecs, version⟩ y.store ∧ y.store.faults = {} := by
  obtain ⟨result, y, ended⟩ := ends_at t (s.acquire resource durationSecs) .empty
  have takes : Along (Moment.surroundings (At t)) Eq _ _ _ _ :=
    along_acquire_took s resource durationSecs (.start .empty)
  have took := ((takes.moved (fun _ => .refl _) fun _ _ _ => .trans).noting none).ended ended
  obtain ⟨changes, took⟩ := took
  match result with
  | .ok none => exact absurd rfl took.2
  | .error (.error e) =>
    cases took.2 with
    | creation failing => exact absurd failing List.not_mem_nil
    | blocked closed => cases closed
    | unreadable there => exact absurd rfl there
  | .error (.fault f) => exact absurd rfl took.2
  | .ok (some lease) =>
    cases (along_acquire_tried s resource durationSecs (.start .empty)).ended ended with
    | taken free stored =>
      obtain rfl := told_at ended rfl
      exact ⟨_, _, ended, stored, changes.faults⟩

/-- If a lease keeps others away at some time after it has been taken, it has not run out by then. -/
private theorem lasts_of_exclusive (exclusive : Exclusive durationSecs t stop) (after : t ≤ now)
    (before : now.total < stop) :
    t.millis + 1000 * durationSecs.toNat ≤ Instant.lastMillis ∧
      now.millis < t.millis + 1000 * durationSecs.toNat := by
  obtain ⟨version, y, took, stored, faults⟩ := taken_at Sample.leases "resource" durationSecs t
  obtain ⟨result, z, again⟩ := ends_at now (Sample.leases.acquire "resource" durationSecs) y.store
  have tried := (along_acquire_tried Sample.leases "resource" durationSecs (.start y.store)).ended again
  rcases tried.standing with ⟨-, failing, -⟩ | ⟨now', told, away⟩
  · rw [show (Moment.start y.store).store.faults = {} from faults] at failing
    exact absurd failing List.not_mem_nil
  · obtain rfl := told_at again told
    obtain ⟨z, first⟩ := z
    obtain rfl : first = some now' := told
    have kept := exclusive Sample.leases Sample.leases _ _ "resource" durationSecs .empty y.store _ y z
      result now' took rfl rfl again after before
    exact (stored.stands_iff (Reading.millis_le after)).mp (away.mp kept)

/-- A lease of some length keeps everyone else away for some time just if it ends at some instant, and
the time is over by then. -/
theorem exclusive_iff (positive : 0 < durationSecs.toNat) (later : t.total < stop) :
    Exclusive durationSecs t stop ↔
      t.millis + 1000 * durationSecs.toNat ≤ Instant.lastMillis ∧
        stop ≤ 1000000 * (t.millis + 1000 * durationSecs.toNat) := by
  refine ⟨fun exclusive => ?_, fun ⟨inside, short⟩ => exclusive_of_le inside short⟩
  have inside := (lasts_of_exclusive exclusive (Int.le_refl _) later).1
  refine ⟨inside, Int.not_lt.mp fun long => ?_⟩
  -- At the instant when it ends the lease is to keep others away, and does not.
  obtain ⟨ending, millis⟩ := t.instant.exists_of_le
    (t.millis + 1000 * durationSecs.toNat) (by unfold Reading.millis; omega) inside
  have below := t.below
  have total : (Reading.whole ending).total = 1000000 * (t.millis + 1000 * durationSecs.toNat) := by
    show ending.millis * 1000000 + (0 : Nat) = _
    omega
  have after : t ≤ .whole ending := by
    show t.total ≤ (Reading.whole ending).total
    rw [total]
    unfold Reading.total
    omega
  have lasts := (lasts_of_exclusive exclusive after (by omega)).2
  exact absurd lasts (Int.not_lt.mpr (Int.le_of_eq millis.symm))

end

end LeaseService

namespace Config.EngineConfig

variable {c : EngineConfig} {t : Reading} {stop : Int}

private theorem refused_iff {refuses : Prop} [Decidable refuses] {refusal : EngineRefusal}
    {next : Option EngineRefusal} :
    (if refuses then some refusal else next) = none ↔ ¬refuses ∧ next = none := by
  by_cases refused : refuses <;> simp [refused]

theorem validate_eq_ok_iff : c.validate = .ok () ↔
    c.lease.renewAfterSecs ≠ 0 ∧
      min (2 * c.lease.renewAfterSecs.toNat) (UInt64.size - 1) ≤ c.lease.durationSecs.toNat ∧
      c.rotation.batchSize ≠ 0 ∧ c.rotation.shardPollIntervalMillis ≠ 0 ∧
      c.rotation.shardPollIntervalMillis < c.rotation.shardWaitTimeoutMillis ∧
      c.runner.maxConcurrentRuns ≠ 0 ∧ c.store.jobs ≠ c.store.leases := by
  have fits : c.validate = .ok () ↔ c.refusal? = none := by
    unfold validate
    cases c.refusal? <;> simp
  rw [fits]
  unfold refusal?
  simp only [refused_iff, Bool.or_eq_true, decide_eq_true_eq, Nat.not_lt, not_or, ge_iff_le,
    UInt64.not_le, and_assoc, and_true]

theorem lease_of_validate (valid : c.validate = .ok ()) : 0 < c.lease.renewAfterSecs.toNat ∧
    min (2 * c.lease.renewAfterSecs.toNat) (UInt64.size - 1) ≤ c.lease.durationSecs.toNat := by
  obtain ⟨positive, long, -⟩ := validate_eq_ok_iff.mp valid
  exact ⟨Nat.pos_of_ne_zero fun zero => positive (UInt64.toNat_inj.mp zero), long⟩

/-- At this time the lease service and the runner can be set up with these settings, and a lease that is
taken keeps everyone else away until so many nanoseconds after the epoch. -/
structure Works (c : EngineConfig) (t : Reading) (stop : Int) : Prop where
  service : ∀ id f, LeaseService.create id c.store.leases c.lease.renewAfterSecs ≠ .error f
  runner : ∀ id f, Runner.create c id ≠ .error (.fault f)
  exclusive : LeaseService.Exclusive c.lease.durationSecs t stop

private theorem renewal_of_le (valid : c.validate = .ok ())
    (inside : t.millis + 1000 * c.lease.durationSecs.toNat ≤ Instant.lastMillis) :
    ∃ span, seconds c.lease.renewAfterSecs = .ok span := by
  have start := t.instant.bounded.1
  unfold Instant.lastMillis Reading.millis at inside
  have bound := (lease_of_validate valid).2
  have size : UInt64.size = 2 ^ 64 := rfl
  obtain ⟨span, length, -⟩ := seconds_of_le c.lease.renewAfterSecs (by omega)
  exact ⟨span, length⟩

private theorem create_eq {span : Span} (valid : c.validate = .ok ())
    (length : seconds c.lease.renewAfterSecs = .ok span) (id : Nat) :
    Runner.create c id =
      if Http.isUserAgent c.fetch.userAgent = true then
        if maxRuns < c.runner.maxConcurrentRuns.toNat then .error (.fault .tooManyRuns)
        else .ok ⟨c, ⟨id, c.store.leases, span⟩, ⟨c.store.jobs⟩⟩
      else .error (.error (.fetch "builder error")) := by
  unfold Runner.create LeaseService.create
  rw [valid, length]
  cases Http.isUserAgent c.fetch.userAgent with
  | false => rfl
  | true =>
    by_cases tooMany : maxRuns < c.runner.maxConcurrentRuns.toNat
    · simp only [tooMany]
      rfl
    · simp only [tooMany]
      rfl

private theorem works_until_iff (valid : c.validate = .ok ()) (later : t.total < stop) :
    c.Works t stop ↔
      (t.millis + 1000 * c.lease.durationSecs.toNat ≤ Instant.lastMillis ∧
        (Http.isUserAgent c.fetch.userAgent = true →
          c.runner.maxConcurrentRuns.toNat ≤ maxRuns)) ∧
        stop ≤ 1000000 * (t.millis + 1000 * c.lease.durationSecs.toNat) := by
  have bounds := lease_of_validate valid
  have size : UInt64.size = 2 ^ 64 := rfl
  have positive : 0 < c.lease.durationSecs.toNat := by omega
  constructor
  · intro works
    obtain ⟨inside, short⟩ := (LeaseService.exclusive_iff positive later).mp works.exclusive
    refine ⟨⟨inside, fun named => Nat.le_of_not_lt fun tooMany => ?_⟩, short⟩
    obtain ⟨span, length⟩ := renewal_of_le valid inside
    refine works.runner 0 .tooManyRuns ?_
    rw [create_eq valid length, if_pos named, if_pos tooMany]
  · rintro ⟨⟨inside, counted⟩, short⟩
    obtain ⟨span, length⟩ := renewal_of_le valid inside
    refine ⟨fun id f failed => ?_, fun id f failed => ?_,
      (LeaseService.exclusive_iff positive later).mpr ⟨inside, short⟩⟩
    · unfold LeaseService.create at failed
      rw [length] at failed
      cases failed
    · rw [create_eq valid length] at failed
      split at failed
      · rename_i named
        rw [if_neg (Nat.not_lt.mpr (counted named))] at failed
        cases failed
      · cases failed

/-- Settings that fit together work at some time, for as long as leases are to last, just if their leases
end at some instant, no more runs are asked for than can be counted, and the time is a whole
millisecond. If it is not they work until the whole millisecond in which a lease ends begins. -/
theorem works_iff (valid : c.validate = .ok ()) (t : Reading) :
    (c.Works t (t.total + 1000000000 * c.lease.durationSecs.toNat) ↔
      (t.millis + 1000 * c.lease.durationSecs.toNat ≤ 8210266876799999 ∧
        (Http.isUserAgent c.fetch.userAgent = true →
          c.runner.maxConcurrentRuns.toNat ≤ maxRuns)) ∧ t.nanos = 0) ∧
      (c.Works t (1000000 * (t.millis + 1000 * c.lease.durationSecs.toNat)) ↔
        t.millis + 1000 * c.lease.durationSecs.toNat ≤ 8210266876799999 ∧
          (Http.isUserAgent c.fetch.userAgent = true →
            c.runner.maxConcurrentRuns.toNat ≤ maxRuns)) := by
  have bounds := lease_of_validate valid
  have size : UInt64.size = 2 ^ 64 := rfl
  have positive : 0 < c.lease.durationSecs.toNat := by omega
  have below := t.below
  have total : t.total = t.millis * 1000000 + t.nanos := rfl
  constructor
  · rw [works_until_iff valid (by omega)]
    refine and_congr Iff.rfl ?_
    omega
  · rw [works_until_iff valid (by omega)]
    exact ⟨fun ⟨fits, _⟩ => fits, fun fits => ⟨fits, Int.le_refl _⟩⟩

/-- The default settings work on the first of May 2024. -/
theorem works_default : ({} : EngineConfig).validate = .ok () ∧
    ({} : EngineConfig).Works Sample.may (Sample.may.total + 1000000000 * 300) :=
  ⟨rfl, (works_iff rfl _).1.mpr ⟨⟨by decide, fun _ => by decide⟩, rfl⟩⟩

private def lapsing : EngineConfig := { lease := ⟨0xffffffffffffffff, 120⟩ }

private def takes (m : Memory) : Except IndicatorFeeds.Failure (Option Lease) × Moment :=
  (Sample.leases.acquire "feed-x" lapsing.lease.durationSecs).run
    (Moment.answeredBy (LeaseService.answersAt Sample.may)) (.start m)

/-- Settings that fit together may let two clients take one lease at the same time. -/
theorem lease_taken_twice :
    lapsing.validate = .ok () ∧
      ¬lapsing.Works Sample.may
        (Sample.may.total + 1000000000 * lapsing.lease.durationSecs.toNat) ∧
      LeaseService.create 0 lapsing.store.leases lapsing.lease.renewAfterSecs = .ok Sample.leases ∧
        ((takes .empty).1.toOption.map (·.isSome)) = some true ∧
          ((takes (takes .empty).2.store).1.toOption.map (·.isSome)) = some true := by
  refine ⟨rfl, fun works => ?_, rfl, ?_, ?_⟩
  · have later : Sample.may.total < Sample.may.total + 1000000000 * lapsing.lease.durationSecs.toNat := by
      decide
    have inside := ((LeaseService.exclusive_iff (by decide) later).mp works.exclusive).1
    revert inside
    decide
  all_goals decide +kernel

end Config.EngineConfig

end IndicatorFeeds

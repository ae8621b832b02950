import IndicatorFeeds.Fault
import IndicatorFeeds.Json.Decode

/-!
Time in whole milliseconds, and what a clock shows, which is finer. An instant lies in a fixed range
of about 262 000 years around the epoch and a span has at most `2 ^ 63 - 1` milliseconds either way;
arithmetic that would leave its range is a `Fault`, which ends the computation it happens in.
-/

namespace IndicatorFeeds

/-- A length of time, in milliseconds. -/
structure Span where
  millis : Int
  bounded : -0x7fffffffffffffff ≤ millis ∧ millis ≤ 0x7fffffffffffffff
deriving DecidableEq

/-- `n` units as a span. -/
def Span.of (unit : SpanUnit) (n : Int) : Except Fault Span :=
  if h : -0x7fffffffffffffff ≤ n * unit.millis ∧ n * unit.millis ≤ 0x7fffffffffffffff then
    .ok ⟨_, h⟩
  else .error (.spanOverflow unit)

/-- A point in time as it is written down, in milliseconds since the epoch. -/
structure Instant where
  millis : Int
  bounded : -8334601228800000 ≤ millis ∧ millis ≤ 8210266876799999
deriving DecidableEq

namespace Instant

/-- The instant with this count of milliseconds. -/
def ofMillis? (millis : Int) : Option Instant :=
  if h : -8334601228800000 ≤ millis ∧ millis ≤ 8210266876799999 then some ⟨millis, h⟩ else none

def epoch : Instant := ⟨0, by decide⟩

instance : Inhabited Instant := ⟨epoch⟩

instance : LT Instant := ⟨fun a b => a.millis < b.millis⟩
instance : LE Instant := ⟨fun a b => a.millis ≤ b.millis⟩
instance (a b : Instant) : Decidable (a < b) := inferInstanceAs (Decidable (a.millis < b.millis))
instance (a b : Instant) : Decidable (a ≤ b) := inferInstanceAs (Decidable (a.millis ≤ b.millis))

def plus (t : Instant) (d : Span) : Except Fault Instant :=
  match ofMillis? (t.millis + d.millis) with
  | some t => .ok t
  | none => .error .instantOverflow

def toJson (t : Instant) : Json.Value := .int t.millis

def fromJson? : Json.Tree → Option Instant
  | .number (some (.int i)) => ofMillis? i
  | _ => none

theorem le_trans {a b c : Instant} (first : a ≤ b) (second : b ≤ c) : a ≤ c :=
  Int.le_trans first second

theorem ofMillis?_millis (t : Instant) : ofMillis? t.millis = some t := by
  simp [ofMillis?, t.bounded]

end Instant

/-- What a clock shows: an instant, and the nanoseconds that have passed since then. They are cut off
wherever a time is written down. -/
structure Reading where
  instant : Instant
  nanos : Nat
  below : nanos < 1000000
deriving DecidableEq

namespace Reading

/-- The milliseconds of a reading, as they are written down. -/
def millis (r : Reading) : Int := r.instant.millis

/-- The nanoseconds since the epoch. -/
def total (r : Reading) : Int := r.millis * 1000000 + r.nanos

instance : LT Reading := ⟨fun a b => a.total < b.total⟩
instance : LE Reading := ⟨fun a b => a.total ≤ b.total⟩
instance (a b : Reading) : Decidable (a < b) := inferInstanceAs (Decidable (a.total < b.total))
instance (a b : Reading) : Decidable (a ≤ b) := inferInstanceAs (Decidable (a.total ≤ b.total))

/-- The first reading of an instant. -/
def whole (t : Instant) : Reading := ⟨t, 0, by decide⟩

instance : Inhabited Reading := ⟨whole .epoch⟩

def plus (r : Reading) (d : Span) : Except Fault Reading := do
  return { r with instant := ← r.instant.plus d }

@[simp] theorem whole_instant (t : Instant) : (whole t).instant = t := rfl

theorem le_trans {a b c : Reading} (first : a ≤ b) (second : b ≤ c) : a ≤ c :=
  Int.le_trans first second

theorem lt_iff {a b : Reading} :
    a < b ↔ a.millis < b.millis ∨ a.millis = b.millis ∧ a.nanos < b.nanos := by
  have belowA := a.below
  have belowB := b.below
  show a.total < b.total ↔ _
  unfold total
  omega

theorem lt_whole_iff {r : Reading} {t : Instant} : r < whole t ↔ r.instant < t := by
  rw [lt_iff]
  refine ⟨fun before => ?_, .inl⟩
  rcases before with before | ⟨-, none⟩
  · exact before
  · exact absurd none (Nat.not_lt_zero _)

theorem whole_le (r : Reading) : whole r.instant ≤ r := by
  show r.millis * 1000000 + (0 : Nat) ≤ r.millis * 1000000 + r.nanos
  omega

theorem whole_le_whole {r : Reading} {t : Instant} (le : whole t ≤ r) :
    whole t ≤ whole r.instant := by
  have below := r.below
  have le : t.millis * 1000000 + (0 : Nat) ≤ r.instant.millis * 1000000 + r.nanos := le
  show t.millis * 1000000 + (0 : Nat) ≤ r.instant.millis * 1000000 + (0 : Nat)
  omega

theorem millis_le {a b : Reading} (le : a ≤ b) : a.millis ≤ b.millis := by
  have belowA := a.below
  have belowB := b.below
  have le : a.total ≤ b.total := le
  unfold total at le
  omega

end Reading

/-- A 64-bit word read as a signed number: `2 ^ 64 - 1` stands for `-1`. -/
def signedWord (n : UInt64) : Int := n.toInt64.toInt

end IndicatorFeeds

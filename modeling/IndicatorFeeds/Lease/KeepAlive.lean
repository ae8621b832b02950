import IndicatorFeeds.Lease.Basic

namespace IndicatorFeeds.KeepAlive

/-- The shortest interval of the timer, in milliseconds. -/
def minInterval : Nat := 50

/-- The interval of the timer for leases that are renewed from this age on: half of it. -/
def interval (renewAfter : Span) : Nat := max (renewAfter.millis.toNat / 2) minInterval

/-- Renews the lease as often as the timer has rung, then goes on. -/
def renewFor (next : Program α) : Nat → Program α
  | 0 => next
  | n + 1 => .ask .renewLease fun _ => renewFor next n

/-- The program with its lease renewed on a timer: before each of its requests, as often as the
timer has rung since the one before. -/
def during : Program α → Program α
  | .done a => .done a
  | .fail e => .fail e
  | .ask r next =>
    .ask .rings fun count => renewFor (.ask r fun answer => during (next answer)) count

/-- How late a ring of the timer may be noticed, in milliseconds, and still count as on time. -/
def tolerance : Nat := 5

/-- When the timer rings next, if the ring that was due at `due` is noticed at `noticed`. After a
late one it starts anew. -/
def nextRing (every due noticed : Nat) : Nat :=
  if noticed > due + tolerance then noticed + every else due + every

/-- What happens while some work is under way: when renewals start, and when the work's end is
noticed. -/
structure Course where
  renewals : List Nat
  finish : Nat
deriving Repr, DecidableEq

/-- The course from a time on, with the timer due to ring at `due`. The work is done at `work`, and a
renewal that starts at `t` takes `cost t`; its end is the first time that anything else is noticed.
Where the end of the work and a ring are noticed at one time either may come first: `ties` says for
one such time after the other whether the ring does, and when it has no more to say the work does. -/
def courseFrom (every : Nat) (cost : Nat → Nat) (work : Nat) :
    Nat → List Bool → Nat → Nat → Course
  | 0, _, time, _ => ⟨[], max time work⟩
  | fuel + 1, ties, time, due =>
    let noticed := max time due
    let ended := max time work
    if ended < noticed ∨ ended = noticed ∧ ties.headD false = false then ⟨[], ended⟩
    else
      let course := courseFrom every cost work fuel (if ended = noticed then ties.tail else ties)
        (noticed + cost noticed) (nextRing every due noticed)
      { course with renewals := noticed :: course.renewals }

/-- The course of work that takes `work` milliseconds, with a timer that rings every `every`
milliseconds. From one ring to the next the timer moves on by a millisecond at least, so that the work
and the ties bound the renewals; a timer that would ring all the time is a fault. -/
def course (every : Nat) (cost : Nat → Nat) (work : Nat) (ties : List Bool) :
    Except Fault Course :=
  if every = 0 then .error .zeroPeriod
  else .ok (courseFrom every cost work (work + ties.length + 1) ties 0 every)

end IndicatorFeeds.KeepAlive

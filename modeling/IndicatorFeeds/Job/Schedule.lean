import IndicatorFeeds.Error
import IndicatorFeeds.Time

/-!
How often a job runs. The period is a 64-bit word that is read as a signed number, so lengths are
computed with what it stands for and not with what is written.
-/

namespace IndicatorFeeds.Job

/-- The units a period is given in. -/
inductive IntervalUnit where
  | minutes | hours | days
deriving Repr, DecidableEq

namespace IntervalUnit

def name : IntervalUnit → String
  | minutes => "minutes"
  | hours => "hours"
  | days => "days"

/-- The name as messages show it. -/
def title : IntervalUnit → String
  | minutes => "Minutes"
  | hours => "Hours"
  | days => "Days"

def span : IntervalUnit → SpanUnit
  | minutes => .minutes
  | hours => .hours
  | days => .days

def fromJson? : Json.Tree → Option IntervalUnit :=
  Json.Tree.oneOf ([minutes, hours, days].map fun u => (u.name, u))

end IntervalUnit

/-- When a job runs: every `period` units from `startTime` on. -/
structure Schedule where
  period : UInt64
  unit : IntervalUnit
  startTime : Instant
deriving DecidableEq

namespace Schedule

def interval (s : Schedule) : Except Fault Span :=
  Span.of s.unit.span (signedWord s.period)

/-- Whether two schedules run equally often. -/
def sameInterval (s t : Schedule) : Except Fault Bool := do
  return (← s.interval).millis = (← t.interval).millis

/-- Why the schedule is refused, `none` if it is not: runs are at least a day apart. -/
def refusal? (s : Schedule) : Except Fault (Option Error) := do
  if (← s.interval).millis < SpanUnit.days.millis then
    return some (.validation
      s!"refresh interval must be at least 1 day, got {s.period.toNat} {s.unit.title}")
  else return none

end Schedule

end IndicatorFeeds.Job

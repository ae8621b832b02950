import IndicatorFeeds.Text.Quoted

namespace IndicatorFeeds

/-- The units that spans are given in. -/
inductive SpanUnit where
  | seconds | minutes | hours | days
deriving Repr, DecidableEq

namespace SpanUnit

def millis : SpanUnit → Int
  | seconds => 1000
  | minutes => 60 * 1000
  | hours => 60 * 60 * 1000
  | days => 24 * 60 * 60 * 1000

def name : SpanUnit → String
  | seconds => "seconds"
  | minutes => "minutes"
  | hours => "hours"
  | days => "days"

end SpanUnit

/-- Why a computation ends without any result. -/
inductive Fault where
  /-- A span has too many milliseconds. -/
  | spanOverflow (unit : SpanUnit)
  /-- The sum of an instant and a span is no instant. -/
  | instantOverflow
  /-- The sum of two parts of a stated duration has too many seconds. -/
  | durationOverflow
  /-- A timer is to ring all the time. -/
  | zeroPeriod
  /-- More concurrent runs are asked for than can be counted. -/
  | tooManyRuns
  /-- A list has more items than can be held. -/
  | capacityOverflow
  /-- A variable of the environment is to have a value that it cannot have. -/
  | unsettableVariable (name value : String)
deriving Repr, DecidableEq

/-- The greatest number of concurrent runs, `2 ^ 61 - 1`. -/
def maxRuns : Nat := 0x1fffffffffffffff

def Fault.message : Fault → String
  | spanOverflow unit => "TimeDelta::" ++ unit.name ++ " out of bounds"
  | instantOverflow => "`DateTime + TimeDelta` overflowed"
  | durationOverflow => "overflow in Duration::new"
  | zeroPeriod => "`period` must be non-zero."
  | tooManyRuns => s!"a semaphore may not have more than MAX_PERMITS permits ({maxRuns})"
  | capacityOverflow => "capacity overflow"
  | unsettableVariable name value =>
    "failed to set environment variable `" ++ Text.quoted name ++ "` to `" ++ Text.quoted value ++
      "`: file name contained an unexpected NUL byte"

end IndicatorFeeds

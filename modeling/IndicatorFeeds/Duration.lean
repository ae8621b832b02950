import IndicatorFeeds.Text.Blank
import IndicatorFeeds.Text.Quoted
import IndicatorFeeds.Time

namespace IndicatorFeeds

/-- A length of time to the nanosecond. -/
structure Duration where
  secs : Nat
  nanos : Nat
  bounded : secs < UInt64.size ∧ nanos < 1000000000
deriving DecidableEq

namespace Duration

instance : Repr Duration := ⟨fun d _ => s!"{d.secs}s {d.nanos}ns"⟩

def zero : Duration := ⟨0, 0, by decide⟩

instance : Inhabited Duration := ⟨zero⟩

def millis (d : Duration) : Nat := d.secs * 1000 + d.nanos / 1000000

/-- The units of written durations. A month is 30.44 days and a year 365.25. -/
inductive Unit where
  | nanoseconds | microseconds | milliseconds | seconds | minutes | hours | days | weeks | months
  | years
deriving Repr, DecidableEq

namespace Unit

/-- The ways to write each unit. -/
def spellings : List (Unit × List String) :=
  [(nanoseconds, ["nanos", "nsec", "ns"]), (microseconds, ["usec", "us", "µs"]),
    (milliseconds, ["millis", "msec", "ms"]),
    (seconds, ["seconds", "second", "secs", "sec", "s"]),
    (minutes, ["minutes", "minute", "min", "mins", "m"]),
    (hours, ["hours", "hour", "hrs", "hr", "h"]), (days, ["days", "day", "d"]),
    (weeks, ["weeks", "week", "wks", "wk", "w"]), (months, ["months", "month", "M"]),
    (years, ["years", "year", "yrs", "yr", "y"])]

/-- The unit that a word stands for. -/
def ofText? (word : String) : Option Unit :=
  (spellings.find? fun (_, words) => words.contains word).map (·.1)

/-- How many nanoseconds one unit has, if those are what whole numbers of it are counted in. -/
def nanos? : Unit → Option Nat
  | nanoseconds => some 1
  | microseconds => some 1000
  | milliseconds => some 1000000
  | _ => none

/-- How many seconds one unit has; none for the units below the second. -/
def secs : Unit → Nat
  | nanoseconds | microseconds | milliseconds => 0
  | seconds => 1
  | minutes => 60
  | hours => 3600
  | days => 86400
  | weeks => 7 * 86400
  | months => 2630016
  | years => 31557600

end Unit

/-- Why a text is no duration. Offsets count bytes. -/
inductive Refusal where
  | invalidCharacter (offset : Nat)
  | numberExpected (offset : Nat)
  /-- The word after the number `value` names no unit; it may be empty. -/
  | unknownUnit (word : String) (value : Nat)
  /-- A number is too large, or has a part below a nanosecond. -/
  | inexact
  | empty
deriving Repr, DecidableEq

def Refusal.message : Refusal → String
  | invalidCharacter offset => s!"invalid character at {offset}"
  | numberExpected offset => s!"expected number at {offset}"
  | unknownUnit word value =>
    if word.isEmpty then s!"time unit needed, for example {value}sec or {value}ms"
    else "unknown time unit " ++ Text.quoted word ++ ", supported units: ns, us/µs, ms, sec, min, " ++
      "hours, days, weeks, months, years (and few variations)"
  | inexact =>
    "number is too large or cannot be represented without a lack of precision " ++
      "(values below 1ns are not supported)"
  | empty => "value was empty"

/-- How reading a duration can end without one. -/
inductive Failure where
  | refused (why : Refusal)
  | fault (f : Fault)
deriving Repr, DecidableEq

/-- A number that fits into 64 bits. -/
def word (n : Nat) : Except Failure Nat :=
  if n < UInt64.size then .ok n else .error (.refused .inexact)

/-- A quotient without a remainder. -/
def exactQuotient (n d : Nat) : Except Failure Nat :=
  if n % d = 0 then .ok (n / d) else .error (.refused .inexact)

/-- The duration of some seconds and up to `10 ^ 9` nanoseconds. -/
def ofParts (secs nanos : Nat) : Except Failure Duration :=
  if h : secs < UInt64.size ∧ nanos < 1000000000 then .ok ⟨secs, nanos, h⟩
  else if h : secs + 1 < UInt64.size then .ok ⟨secs + 1, 0, h, by decide⟩
  else .error (.fault .durationOverflow)

/-- The duration with some seconds and nanoseconds more. Nanoseconds are carried over to the
seconds when there are more than `10 ^ 9` of them, and by `ofParts` when there are just as many. -/
def plus (d : Duration) (secs nanos : Nat) : Except Failure Duration := do
  let nanos ← word (d.nanos + nanos)
  let carried := if nanos > 1000000000 then nanos / 1000000000 else 0
  let secs ← word (secs + carried)
  let secs ← word (d.secs + secs)
  ofParts secs (nanos - carried * 1000000000)

/-- A number before a unit: its whole part, and its decimal fraction as numerator and
denominator. -/
structure Amount where
  whole : Nat
  fraction : Option (Nat × Nat) := none

/-- The duration with a fraction of a unit more. Below the hour the fraction comes to whole
nanoseconds, from the hour on to whole seconds. -/
def plusFraction (d : Duration) (numerator denominator : Nat) : Unit → Except Failure Duration
  | .nanoseconds => .error (.refused .inexact)
  | .microseconds => nanosOf 1000
  | .milliseconds => nanosOf 1000000
  | .seconds => nanosOf 1000000000
  | .minutes => nanosOf 60000000000
  | unit => do d.plus (← exactQuotient (← word (numerator * unit.secs)) denominator) 0
where
  nanosOf (size : Nat) : Except Failure Duration := do
    d.plus 0 (← exactQuotient (← word (numerator * size)) denominator)

def plusAmount (d : Duration) (amount : Amount) (unit : Unit) : Except Failure Duration := do
  let d ← match unit.nanos? with
    | some size => do d.plus 0 (← word (amount.whole * size))
    | none => do d.plus (← word (amount.whole * unit.secs)) 0
  match amount.fraction with
  | none => return d
  | some (numerator, denominator) => d.plusFraction numerator denominator unit

/-- The duration with an amount more whose unit is given by a word. -/
def plusNamed (d : Duration) (amount : Amount) (name : String) : Except Failure Duration :=
  match Unit.ofText? name with
  | some unit => d.plusAmount amount unit
  | none => .error (.refused (.unknownUnit name amount.whole))

/-- How many bytes characters have in UTF-8. -/
private def byteCount (cs : List Char) : Nat := cs.foldl (fun n c => n + c.utf8Size) 0

/-- The characters of a number; blanks inside it do not count. -/
private def inNumber (c : Char) : Bool := c.isDigit || Text.isBlank c

private def inUnit (c : Char) : Bool := c.isAlpha || c = 'µ'

private def digitsIn (cs : List Char) : List Nat :=
  (cs.filter Char.isDigit).map fun c => c.toNat - 0x30

private def wholeOf (cs : List Char) : Except Failure Nat :=
  (digitsIn cs).foldlM (fun n d => word (n * 10 + d)) 0

private def fractionOf (cs : List Char) : Except Failure (Nat × Nat) := do
  let digits := digitsIn cs
  return (digits.foldl (fun n d => n * 10 + d) 0, ← word (Nat.pow 10 digits.length))

private def afterAmount (cs : List Char) : List Char :=
  match cs.dropWhile inNumber with
  | '.' :: rest => rest.dropWhile inNumber
  | rest => rest

private theorem length_afterAmount_le (first : Char) (rest : List Char) (digit : first.isDigit) :
    (afterAmount (first :: rest)).length ≤ rest.length := by
  have dropped : (first :: rest).dropWhile inNumber = rest.dropWhile inNumber := by
    simp [inNumber, digit]
  have shorter := (List.dropWhile_suffix (l := rest) inNumber).length_le
  unfold afterAmount
  rw [dropped]
  split
  · rename_i fraction h
    have shorter' := (List.dropWhile_suffix (l := fraction) inNumber).length_le
    rw [h] at shorter
    simp only [List.length_cons] at shorter
    omega
  · exact shorter

/-- A number with a decimal fraction or without, and the offset after it. -/
private def readAmount (offset : Nat) (cs : List Char) : Except Failure (Amount × Nat) := do
  let run := cs.takeWhile inNumber
  let whole ← wholeOf run
  let offset := offset + byteCount run
  match cs.dropWhile inNumber with
  | '.' :: rest =>
    let run := rest.takeWhile inNumber
    let fraction ← fractionOf run
    let stop := if run.isEmpty then offset else offset + 1 + byteCount run
    let isWord := match rest.dropWhile inNumber with
      | [] => true
      | c :: _ => inUnit c
    if fraction.2 = 1 || !isWord then throw (.refused (.invalidCharacter stop))
    return (⟨whole, some fraction⟩, stop)
  | _ => return (⟨whole, none⟩, offset)

/-- Adds up what follows a term, which starts with a digit. -/
private def readTerms (total : Duration) (offset : Nat) (first : Char) (_digit : first.isDigit)
    (rest : List Char) : Except Failure Duration := do
  let (amount, offset) ← readAmount offset (first :: rest)
  let after := afterAmount (first :: rest)
  let name := after.takeWhile inUnit
  let stop := offset + byteCount name
  match _h : after.dropWhile inUnit with
  | [] => total.plusNamed amount (String.ofList name)
  | c :: more =>
    if hc : c.isDigit then
      readTerms (← total.plusNamed amount (String.ofList name)) stop c hc more
    else if Text.isBlank c then
      let total ← total.plusNamed amount (String.ofList name)
      let start := stop + c.utf8Size
      match _h' : Text.trimStart more with
      | [] => return total
      | d :: more' =>
        if hd : d.isDigit then
          readTerms total (start + byteCount (more.takeWhile Text.isBlank)) d hd more'
        else throw (.refused (.numberExpected start))
    else throw (.refused (.invalidCharacter stop))
termination_by rest.length
decreasing_by
  all_goals
    have bound := length_afterAmount_le first rest _digit
    have shorter := (List.dropWhile_suffix (l := afterAmount (first :: rest)) inUnit).length_le
    rw [_h, List.length_cons] at shorter
  · omega
  · have shorter' := (List.dropWhile_suffix (l := more) Text.isBlank).length_le
    have h'' : more.dropWhile Text.isBlank = d :: more' := _h'
    rw [h'', List.length_cons] at shorter'
    omega

/-- The duration that a text states. A bare `0` needs no unit. -/
def parse (text : String) : Except Failure Duration :=
  if text = "0" then .ok zero
  else match Text.trimStart text.toList with
    | [] => .error (.refused .empty)
    | c :: rest =>
      if h : c.isDigit then
        readTerms zero (byteCount (text.toList.takeWhile Text.isBlank)) c h rest
      else .error (.refused (.numberExpected 0))

end Duration

end IndicatorFeeds

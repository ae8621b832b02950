import IndicatorFeeds.Toml.Value
import IndicatorFeeds.Url.Host

namespace IndicatorFeeds.Toml

/-- The characters of a word; a date and a time may also be two words with a space between. -/
def inWord (c : Char) : Bool :=
  c.isAlphanum || c = '_' || c = '+' || c = '-' || c = '.' || c = ':'

/-- The digits of a number that may have underscores between them. -/
def groupedDigits (isDigit : Char → Bool) : List Char → Option (List Char)
  | [] => none
  | [c] => if isDigit c then some [c] else none
  | c :: '_' :: rest =>
    if isDigit c then (groupedDigits isDigit rest).map (c :: ·) else none
  | c :: rest =>
    if isDigit c then (groupedDigits isDigit rest).map (c :: ·) else none

/-- A sign that may be missing: whether it is a minus, and what follows it. -/
private def takeSign : List Char → Bool × List Char
  | '-' :: rest => (true, rest)
  | '+' :: rest => (false, rest)
  | cs => (false, cs)

/-- The digits of a decimal integer without its sign. Only zero itself starts with a zero. -/
private def decimalDigits (cs : List Char) : Option (List Char) := do
  match ← groupedDigits Char.isDigit cs with
  | '0' :: _ :: _ => none
  | digits => some digits

private def isHexDigit (c : Char) : Bool :=
  c.isDigit || ('a' ≤ c && c ≤ 'f') || ('A' ≤ c && c ≤ 'F')

/-- The integers that 128 bits hold. -/
private def isWide (i : Int) : Bool :=
  -0x80000000000000000000000000000000 ≤ i && i < 0x100000000000000000000000000000000

/-- An integer: in decimal with or without a sign, or in base sixteen, eight or two. -/
def integer? (cs : List Char) : Option Int := do
  let i : Int ← match cs with
    | '0' :: 'x' :: rest => based 16 isHexDigit rest
    | '0' :: 'o' :: rest => based 8 (fun c => '0' ≤ c && c ≤ '7') rest
    | '0' :: 'b' :: rest => based 2 (fun c => c = '0' || c = '1') rest
    | _ =>
      let (negative, rest) := takeSign cs
      let n ← Url.numberIn 10 (← decimalDigits rest)
      some (if negative then -n else n)
  if isWide i then some i else none
where
  based (radix : Nat) (isDigit : Char → Bool) (cs : List Char) : Option Int := do
    return (← Url.numberIn radix (← groupedDigits isDigit cs))

/-- A floating-point number: with a fraction or an exponent or both, or not finite. One that is
written finite must be finite. -/
def real? (cs : List Char) : Option (Option Binary64) := do
  let (negative, cs) := takeSign cs
  if cs = ['i', 'n', 'f'] || cs = ['n', 'a', 'n'] then return none
  let isMark (c : Char) : Bool := c = 'e' || c = 'E'
  let mantissa := cs.takeWhile fun c => !isMark c
  let exponent ← match cs.dropWhile fun c => !isMark c with
    | [] => some none
    | _ :: rest =>
      let (down, rest) := takeSign rest
      let n ← Url.numberIn 10 (← groupedDigits Char.isDigit rest)
      some (some (if down then -(n : Int) else n))
  let fraction ← match mantissa.dropWhile (· ≠ '.') with
    | [] => some none
    | _ :: rest => (groupedDigits Char.isDigit rest).map some
  if exponent.isNone && fraction.isNone then none
  let whole ← decimalDigits (mantissa.takeWhile (· ≠ '.'))
  let fraction := fraction.getD []
  let significand ← Url.numberIn 10 (whole ++ fraction)
  return some (← Binary64.nearestDecimal negative significand (exponent.getD 0 - fraction.length))

private def twoDigits? (a b : Char) (least greatest : Nat) : Option Nat := do
  if !(a.isDigit && b.isDigit) then none
  let n ← Url.numberIn 10 [a, b]
  if least ≤ n && n ≤ greatest then some n else none

private def isLeapYear (year : Nat) : Bool :=
  year % 4 = 0 && (year % 100 ≠ 0 || year % 400 = 0)

/-- How many days a month has. -/
def daysIn (year month : Nat) : Nat :=
  if month = 2 then if isLeapYear year then 29 else 28
  else if month = 4 || month = 6 || month = 9 || month = 11 then 30
  else 31

/-- What follows a date at the head of the characters. -/
def date? : List Char → Option (List Char)
  | a :: b :: c :: d :: '-' :: m :: n :: '-' :: x :: y :: rest => do
    if [a, b, c, d].any (fun digit => !digit.isDigit) then none
    let year ← Url.numberIn 10 [a, b, c, d]
    let month ← twoDigits? m n 1 12
    let _ ← twoDigits? x y 1 (daysIn year month)
    return rest
  | _ => none

/-- What follows a time of day at the head of the characters. Seconds may be missing, and a leap
second has the number sixty. -/
def time? : List Char → Option (List Char)
  | a :: b :: ':' :: c :: d :: rest => do
    let _ ← twoDigits? a b 0 23
    let _ ← twoDigits? c d 0 59
    match rest with
    | ':' :: e :: f :: rest =>
      let _ ← twoDigits? e f 0 60
      match rest with
      | '.' :: g :: rest => if g.isDigit then some (rest.dropWhile Char.isDigit) else none
      | _ => some rest
    | _ => some rest
  | _ => none

/-- Whether the characters are a distance from universal time, or nothing. -/
def isOffset : List Char → Bool
  | [] | ['Z'] | ['z'] => true
  | sign :: rest@(_ :: _ :: ':' :: [_, _]) =>
    (sign = '+' || sign = '-') && time? rest = some []
  | _ => false

/-- Whether the characters are a date, a time of day, or a date with a time and perhaps its
distance from universal time. -/
def isDatetime (cs : List Char) : Bool :=
  match date? cs with
  | none => time? cs = some []
  | some [] => true
  | some (mark :: rest) =>
    (mark = 'T' || mark = 't' || mark = ' ') &&
      match time? rest with
      | some offset => isOffset offset
      | none => false

def scalar? (cs : List Char) : Option Value :=
  if cs = ['t', 'r', 'u', 'e'] then some (.boolean true)
  else if cs = ['f', 'a', 'l', 's', 'e'] then some (.boolean false)
  else if isDatetime cs then some (.datetime (String.ofList cs))
  else match integer? cs with
    | some i => some (.integer i)
    | none => (real? cs).map .real

/-- A word at the head of the characters. A date, a space and a digit go on with a time. -/
def takeWord (cs : List Char) : List Char × List Char :=
  let word := cs.takeWhile inWord
  match cs.dropWhile inWord with
  | ' ' :: d :: rest =>
    if d.isDigit && date? word = some [] then
      (word ++ ' ' :: (d :: rest).takeWhile inWord, (d :: rest).dropWhile inWord)
    else (word, ' ' :: d :: rest)
  | after => (word, after)

end IndicatorFeeds.Toml

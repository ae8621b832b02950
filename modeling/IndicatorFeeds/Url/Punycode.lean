import IndicatorFeeds.Url.Encoding

/-!
Punycode: a label with characters beyond ASCII, written in ASCII. The ASCII characters come first;
the others follow as steps through the pairs of code point and position, each step a number of
variable length whose digits weigh more or less as the steps so far have been long or short.
-/

namespace IndicatorFeeds.Url.Punycode

private def digitChar (n : Nat) : Char :=
  if n < 26 then Char.ofNat (0x61 + n) else Char.ofNat (0x16 + n)

private def digitValue (c : Char) : Option Nat :=
  if 'a' ≤ c && c ≤ 'z' then some (c.toNat - 0x61)
  else if 'A' ≤ c && c ≤ 'Z' then some (c.toNat - 0x41)
  else if '0' ≤ c && c ≤ '9' then some (c.toNat - 0x16)
  else none

/-- The greatest last digit at place `k`. -/
private def threshold (k bias : Nat) : Nat :=
  if k ≤ bias then 1 else min (k - bias) 26

private def adaptFrom (delta k : Nat) : Nat :=
  if 455 < delta then adaptFrom (delta / 35) (k + 36) else k + 36 * delta / (delta + 38)
termination_by delta

/-- The bias after a step of length `delta` to a text of `count` characters. -/
private def adapt (delta count : Nat) (first : Bool) : Nat :=
  let delta := if first then delta / 700 else delta / 2
  adaptFrom (delta + delta / count) 0

private def stepDigits : Nat → Nat → Nat → Nat → List Char
  | 0, _, _, _ => []
  | fuel + 1, bias, k, q =>
    let t := threshold k bias
    if q < t then [digitChar q]
    else digitChar (t + (q - t) % (36 - t)) :: stepDigits fuel bias (k + 36) ((q - t) / (36 - t))

/-- What has been written: the length of the step to come, how many characters are in place, the
bias, and the digits. -/
private structure Writer where
  delta : Nat
  placed : Nat
  bias : Nat
  digits : List Char

private def placeChar (basic n : Nat) (w : Writer) (c : Char) : Writer :=
  if c.toNat < n then { w with delta := w.delta + 1 }
  else if c.toNat = n then
    { delta := 0
      placed := w.placed + 1
      bias := adapt w.delta (w.placed + 1) (w.placed = basic)
      digits := w.digits ++ stepDigits (w.delta + 1) w.bias 36 w.delta }
  else w

private def insertSorted (n : Nat) : List Nat → List Nat
  | [] => [n]
  | m :: rest => if n < m then n :: m :: rest else if n = m then m :: rest
    else m :: insertSorted n rest

def encode (cs : List Char) : List Char :=
  let basic := cs.filter (·.toNat < 0x80)
  let points := (cs.filter (0x80 ≤ ·.toNat)).foldl (fun done c => insertSorted c.toNat done) []
  let start : Writer := ⟨0, basic.length, 72, []⟩
  let (w, _) := points.foldl (fun (w, n) m =>
    let w := { w with delta := w.delta + (m - n) * (w.placed + 1) }
    let w := cs.foldl (placeChar basic.length m) w
    ({ w with delta := w.delta + 1 }, m + 1)) (start, 0x80)
  basic ++ (if basic.isEmpty then [] else ['-']) ++ w.digits

/-- What has been read: the text, the last code point and position, the bias, and the number whose
digits are being read with the weight and place of the next one. -/
private structure Reader where
  text : List Char
  point : Nat
  position : Nat
  bias : Nat
  number : Nat
  weight : Nat
  k : Nat

/-- The first number that is too large for a position or a weight. -/
private def numberLimit : Nat := 0x100000000

private def readDigit (r : Reader) (c : Char) : Option Reader := do
  let d ← digitValue c
  let number := r.number + d * r.weight
  let t := threshold r.k r.bias
  if numberLimit ≤ r.position + number then none
  else if t ≤ d then
    let weight := r.weight * (36 - t)
    if numberLimit ≤ weight then none else return { r with number, weight, k := r.k + 36 }
  else
    let count := r.text.length + 1
    let position := r.position + number
    let point := r.point + position / count
    if point < 0xd800 || (0xdfff < point && point < 0x110000) then
      let (before, after) := r.text.splitAt (position % count)
      return {
        text := before ++ Char.ofNat point :: after
        point
        position := position % count + 1
        bias := adapt number count (r.position = 0)
        number := 0
        weight := 1
        k := 36 }
    else none

/-- The characters that ASCII text stands for, `none` if it stands for none. A sign that ends the
ASCII characters has some before it. -/
def decode? (cs : List Char) : Option (List Char) := do
  let tail := (cs.reverse.takeWhile (· ≠ '-')).reverse
  let head := (cs.take (cs.length - tail.length)).dropLast
  if head.isEmpty && tail.length < cs.length then none
  let r ← tail.foldlM readDigit ⟨head, 0x80, 0, 72, 0, 1, 36⟩
  if r.k = 36 then some r.text else none

end IndicatorFeeds.Url.Punycode

import IndicatorFeeds.Number.Binary64

namespace IndicatorFeeds.Binary64

private def digitCount (n : Nat) : Nat := (Nat.toDigits 10 n).length

/-- The ends of the interval of reals that round to `x`, and `x` itself, over one denominator. -/
private def interval (x : Binary64) : Nat × Nat × Nat × Nat :=
  let below := if x.mantissa == 0x10000000000000 && x.exponent > -1074 then 1 else 2
  let e := x.exponent - 2
  let (scale, den) := if e ≥ 0 then (Nat.pow 2 e.toNat, 1) else (1, Nat.pow 2 (-e).toNat)
  ((4 * x.mantissa - below) * scale, 4 * x.mantissa * scale, (4 * x.mantissa + 2) * scale, den)

/-- The exponent `k` with `10 ^ k ≤ v / den < 10 ^ (k + 1)`. -/
private def magnitude (v den : Nat) : Int :=
  if v ≥ den then (digitCount (v / den) : Int) - 1
  else
    let k := digitCount (den / v)
    if v * Nat.pow 10 k < den then -(k : Int) - 1
    else if v * Nat.pow 10 (k - 1) ≥ den then -(k : Int) + 1
    else -(k : Int)

private def scaleBy (n den : Nat) (p : Int) : Nat × Nat :=
  if p ≥ 0 then (n, den * Nat.pow 10 p.toNat) else (n * Nat.pow 10 (-p).toNat, den)

/-- The multiple of `10 ^ p` that lies in the interval of `x` and is nearest to `x`. -/
private def onGrid? (x : Binary64) (p : Int) : Option Nat :=
  let (low, v, high, den) := interval x
  let (v', d) := scaleBy v den p
  let (low', _) := scaleBy low den p
  let (high', _) := scaleBy high den p
  let inside (c : Nat) : Bool :=
    if x.mantissa % 2 == 0 then low' ≤ c * d && c * d ≤ high' else low' < c * d && c * d < high'
  let q := v' / d
  match inside q, inside (q + 1) with
  | true, true =>
    let twice := 2 * (v' % d)
    some (if twice < d || (twice == d && q % 2 == 0) then q else q + 1)
  | true, false => some q
  | false, true => some (q + 1)
  | false, false => none

private def search (x : Binary64) (k : Int) : Nat → Nat → Nat × Int
  | 0, _ => (x.mantissa, 0)
  | fuel + 1, n =>
    let p := k - n + 1
    match onGrid? x p with
    | some c => if c == 0 then search x k fuel (n + 1) else (c, p)
    | none => search x k fuel (n + 1)

private def stripZeros : Nat → Nat → Int → Nat × Int
  | 0, c, p => (c, p)
  | fuel + 1, c, p => if c % 10 == 0 then stripZeros fuel (c / 10) (p + 1) else (c, p)

/-- Digits and exponent of the shortest decimal that rounds to a non-zero `x`. -/
def shortest (x : Binary64) : Nat × Int :=
  let (_, v, _, den) := interval x
  let (c, p) := search x (magnitude v den) 17 1
  stripZeros 20 c p

private def zeros (n : Nat) : List Char := List.replicate n '0'

/-- Decimal text: positional from `10 ^ -5` up to below `10 ^ 16`, always with a point, and
elsewhere with a signed exponent. -/
def render (x : Binary64) : List Char :=
  let sign := if x.negative then ['-'] else []
  if x.isZero then sign ++ ['0', '.', '0'] else
  let (c, p) := x.shortest
  let digits := Nat.toDigits 10 c
  let point : Int := digits.length + p
  sign ++
    if 0 ≤ p && point ≤ 16 then digits ++ zeros p.toNat ++ ['.', '0']
    else if 0 < point && point ≤ 16 then
      digits.take point.toNat ++ '.' :: digits.drop point.toNat
    else if -5 < point && point ≤ 0 then '0' :: '.' :: zeros (-point).toNat ++ digits
    else
      let exponent := point - 1
      let tail := (if exponent < 0 then '-' else '+') :: Nat.toDigits 10 exponent.natAbs
      match digits with
      | [d] => d :: 'e' :: tail
      | d :: rest => d :: '.' :: rest ++ 'e' :: tail
      | [] => 'e' :: tail

end IndicatorFeeds.Binary64

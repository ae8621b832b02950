import IndicatorFeeds.Text.Split

/-!
Tables that give characters others in their place, and how such a table is written. Its words are
separated by blanks, and all numbers in it are code points in hexadecimal digits:

* `df:73.73,e0` gives `df` two characters and the next code point, `e0`, one;
* `41-5a+20` gives every code point from `41` to `5a` the one that lies `20` after it;
* `100-12e/+1` does so for every second code point.
-/

namespace IndicatorFeeds.Text

private def isHexDigit (c : Char) : Bool := c.isDigit || ('a' ≤ c && c ≤ 'f')

private def codePoint (digits : List Char) : Nat :=
  digits.foldl (fun n c => n * 16 + (if c.isDigit then c.toNat - 0x30 else c.toNat - 0x57)) 0

/-- The characters for a code point and those after it. -/
private def listed (first : Nat) (images : List Char) : List (Nat × List Char) :=
  (splitWhen (· = ',') images).mapIdx fun i image =>
    (first + i, (splitWhen (· = '.') image).map fun digits => Char.ofNat (codePoint digits))

/-- The characters at a fixed distance from the code points of a run. -/
private def shifted (first last step : Nat) (distance : List Char) : List (Nat × List Char) :=
  let points := (List.range ((last - first) / step + 1)).map fun i => first + i * step
  match distance with
  | '-' :: digits => points.map fun n => (n, [Char.ofNat (n - codePoint digits)])
  | digits => points.map fun n => (n, [Char.ofNat (n + codePoint (digits.drop 1))])

/-- What a word of a table says. -/
private def readWord (word : List Char) : List (Nat × List Char) :=
  let first := codePoint (word.takeWhile isHexDigit)
  match word.dropWhile isHexDigit with
  | ':' :: images => listed first images
  | '-' :: rest =>
    let last := codePoint (rest.takeWhile isHexDigit)
    match rest.dropWhile isHexDigit with
    | '/' :: distance => shifted first last 2 distance
    | distance => shifted first last 1 distance
  | _ => []

/-- The table that a text describes. -/
def readReplacements (text : String) : List (Nat × List Char) :=
  (splitWhen Char.isWhitespace text.toList).flatMap readWord

end IndicatorFeeds.Text

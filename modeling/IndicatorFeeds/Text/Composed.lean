import IndicatorFeeds.Text.CombiningClass
import IndicatorFeeds.Text.Decomposition

namespace IndicatorFeeds.Text

/-- How many consonants a syllable may start with, how many vowels it may have, and how many
consonants it may end in, no consonant included. -/
private def initials : Nat := 19

private def vowels : Nat := 21

private def finals : Nat := 28

/-- The letters that a syllable of Hangul consists of. -/
def syllableLetters? (c : Char) : Option (List Char) :=
  let n := c.toNat
  if 0xac00 ≤ n && n < 0xac00 + initials * vowels * finals then
    let i := n - 0xac00
    let letters := [Char.ofNat (0x1100 + i / (vowels * finals)),
      Char.ofNat (0x1161 + i / finals % vowels)]
    some (if i % finals = 0 then letters else letters ++ [Char.ofNat (0x11a7 + i % finals)])
  else none

/-- The syllable of a consonant and a vowel, or of a syllable and a consonant at its end. -/
def syllable? (a b : Char) : Option Char :=
  let m := a.toNat
  let n := b.toNat
  if 0x1100 ≤ m && m < 0x1100 + initials && 0x1161 ≤ n && n < 0x1161 + vowels then
    some (Char.ofNat (0xac00 + ((m - 0x1100) * vowels + (n - 0x1161)) * finals))
  else if 0xac00 ≤ m && m < 0xac00 + initials * vowels * finals && (m - 0xac00) % finals = 0 &&
      0x11a7 < n && n < 0x11a7 + finals then
    some (Char.ofNat (m + (n - 0x11a7)))
  else none

/-- The characters that a character consists of. -/
def decompose (c : Char) : List Char :=
  if c.toNat < 0xc0 then [c]
  else match syllableLetters? c with
    | some letters => letters
    | none =>
      ((composites.lookup c.toNat).orElse fun _ => replacedCharacters.lookup c.toNat).getD [c]

/-- The characters of a text held backwards, with one more at its end; a mark goes before the marks
of higher classes. -/
def insertMark (c : Char) : List Char → List Char
  | [] => [c]
  | m :: rest =>
    if combiningClass c < combiningClass m then m :: insertMark c rest else c :: m :: rest

/-- The characters with the marks after each in the order of their classes. -/
def orderMarks (cs : List Char) : List Char :=
  (cs.foldl (fun done c => if combiningClass c = 0 then c :: done else insertMark c done)
    []).reverse

/-- The character that two others are together. -/
def compose? (a b : Char) : Option Char :=
  match syllable? a b with
  | some c => some c
  | none =>
    let whole := decompose a ++ [b]
    (composites.find? fun (_, parts) => parts = whole).map fun (n, _) => Char.ofNat n

/-- The composed text of a character, the marks after it that have stayed by themselves, the last
one first, and more characters. A mark is cut off by another of its class or a higher one. -/
def composeFrom (start : Char) (marks : List Char) : List Char → List Char
  | [] => start :: marks.reverse
  | c :: rest =>
    let isCutOff := marks.head?.any fun m => combiningClass c ≤ combiningClass m
    match if isCutOff then none else compose? start c with
    | some whole => composeFrom whole marks rest
    | none =>
      if combiningClass c = 0 then start :: (marks.reverse ++ composeFrom c [] rest)
      else composeFrom start (c :: marks) rest

/-- The composed form of a text. Marks at its start belong to no character. -/
def composed (cs : List Char) : List Char :=
  let ordered := orderMarks (cs.flatMap decompose)
  let isLoose (c : Char) : Bool := combiningClass c ≠ 0
  match ordered.dropWhile isLoose with
  | [] => ordered
  | start :: rest => ordered.takeWhile isLoose ++ composeFrom start [] rest

end IndicatorFeeds.Text

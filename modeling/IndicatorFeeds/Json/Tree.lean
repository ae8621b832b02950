import IndicatorFeeds.Json.Value

/-!
Reading JSON. A text becomes a tree first: its grammar is settled there, while a number out of
range and a string whose escapes name no text stay as leaves without a value, since they matter
only to a reader that looks at them. `Tree.value?` is the reader that looks at everything.
-/

namespace IndicatorFeeds.Json

/-- A JSON text as written: fields in order, repeated ones included. -/
inductive Tree where
  | null
  | bool (b : Bool)
  /-- A number, `none` if it is out of range. -/
  | number (n : Option Number)
  /-- A string, `none` if an escape in it is half a surrogate pair. -/
  | string (s : Option String)
  | array (items : List Tree)
  | object (fields : List (Option String × Tree))
deriving Inhabited

/-- The four characters between tokens. -/
def isGap (c : Char) : Bool :=
  c = ' ' || c = '\n' || c = '\t' || c = '\r'

def skipGap (cs : List Char) : List Char := cs.dropWhile isGap

private def hexValue (c : Char) : Option Nat :=
  if '0' ≤ c && c ≤ '9' then some (c.toNat - 0x30)
  else if 'a' ≤ c && c ≤ 'f' then some (c.toNat - 0x57)
  else if 'A' ≤ c && c ≤ 'F' then some (c.toNat - 0x37)
  else none

private def hexUnit (a b c d : Char) : Option Nat := do
  let a ← hexValue a
  let b ← hexValue b
  let c ← hexValue c
  let d ← hexValue d
  return ((a * 16 + b) * 16 + c) * 16 + d

/-- The character that a short escape names. -/
private def shortEscape (c : Char) : Option Char :=
  if c = '"' then some '"'
  else if c = '\\' then some '\\'
  else if c = '/' then some '/'
  else if c = 'b' then some (Char.ofNat 0x08)
  else if c = 'f' then some (Char.ofNat 0x0c)
  else if c = 'n' then some '\n'
  else if c = 'r' then some '\r'
  else if c = 't' then some '\t'
  else none

private def isHighSurrogate (n : Nat) : Bool := 0xd800 ≤ n && n ≤ 0xdbff
private def isLowSurrogate (n : Nat) : Bool := 0xdc00 ≤ n && n ≤ 0xdfff

/-- The unit of four hexadecimal digits at the head of the characters. -/
private def unitAt : List Char → Option Nat
  | a :: b :: c :: d :: _ => hexUnit a b c d
  | _ => none

/-- What the characters after a backslash stand for, and how many of them belong to the escape.
A surrogate pair is one character; half a pair stands for no character. -/
def escapeAt : List Char → Option (Option Char × Nat)
  | 'u' :: rest => do
    let n ← unitAt rest
    if isHighSurrogate n then
      match rest.drop 4 with
      | '\\' :: 'u' :: low => do
        let m ← unitAt low
        if isLowSurrogate m then
          return (some (Char.ofNat (0x10000 + (n - 0xd800) * 0x400 + (m - 0xdc00))), 11)
        else return (none, 5)
      | _ => return (none, 5)
    else if isLowSurrogate n then return (none, 5)
    else return (some (Char.ofNat n), 5)
  | c :: _ => (shortEscape c).map fun c => (some c, 1)
  | [] => none

/-- The rest of a string after its opening quote: its text, if its escapes name one, and what
follows the closing quote. `done` holds the characters so far, the last one first. -/
def stringRest (done : List Char) (sound : Bool) : List Char → Option (Option String × List Char)
  | [] => none
  | c :: rest =>
    if c = '"' then some (if sound then some (String.ofList done.reverse) else none, rest)
    else if c = '\\' then
      match escapeAt rest with
      | none => none
      | some (some e, n) => stringRest (e :: done) sound (rest.drop n)
      | some (none, n) => stringRest done false (rest.drop n)
    else if c.toNat < 0x20 then none
    else stringRest (c :: done) sound rest
termination_by cs => cs.length
decreasing_by all_goals simp only [List.length_drop, List.length_cons]; omega

def digitsOf (cs : List Char) : List Nat := cs.map fun c => c.toNat - 0x30

/-- Appends digits to a significand while it stays below `2 ^ 64`, and counts the digits left
over from the first that does not fit. -/
def accumulate (significand : Nat) : List Nat → Nat × Nat
  | [] => (significand, 0)
  | d :: rest =>
    if significand * 10 + d < UInt64.size then accumulate (significand * 10 + d) rest
    else (significand, rest.length + 1)

def real? (negative : Bool) (significand : Nat) (exponent : Int) : Option Number :=
  (Binary64.ofDecimal negative significand exponent).map .real

/-- The value of a number from its sign, its digits before and after the point, and its exponent.
Without point and exponent it is an integer if it fits into 64 bits; minus zero is a double. -/
def numberValue (negative : Bool) (whole fraction : List Char)
    (exponent : Option (Bool × List Char)) : Option Number :=
  let (significand, extra) := accumulate 0 (digitsOf whole)
  if fraction.isEmpty && exponent.isNone then
    if extra > 0 then real? negative significand extra
    else if !negative then some (.int significand)
    else if 0 < significand && significand ≤ 0x8000000000000000 then some (.int (-significand))
    else real? true significand 0
  else
    let (significand, unused) := accumulate significand (digitsOf fraction)
    let scale : Int := extra - ((fraction.length : Int) - unused)
    match exponent with
    | none => real? negative significand scale
    | some (down, digits) =>
      let e := Nat.ofDigitChars 10 digits 0
      if e ≥ 0x80000000 then
        if significand != 0 && !down then none else some (.real (.zero negative))
      else real? negative significand (if down then scale - e else scale + e)

def takeDigits (cs : List Char) : List Char × List Char :=
  (cs.takeWhile Char.isDigit, cs.dropWhile Char.isDigit)

/-- A number at the head of the characters. -/
def number? (cs : List Char) : Option (Option Number × List Char) :=
  let (negative, cs) := match cs with
    | '-' :: rest => (true, rest)
    | _ => (false, cs)
  let (whole, cs) := takeDigits cs
  let leadingZero := match whole with
    | '0' :: _ :: _ => true
    | _ => false
  if whole.isEmpty || leadingZero then none else
  let (point, cs) := match cs with
    | '.' :: rest => (true, rest)
    | _ => (false, cs)
  let (fraction, cs) := if point then takeDigits cs else ([], cs)
  if point && fraction.isEmpty then none else
  match cs with
  | e :: rest =>
    if e = 'e' || e = 'E' then
      let (down, rest) := match rest with
        | '+' :: r => (false, r)
        | '-' :: r => (true, r)
        | _ => (false, rest)
      let (digits, rest) := takeDigits rest
      if digits.isEmpty then none
      else some (numberValue negative whole fraction (some (down, digits)), rest)
    else some (numberValue negative whole fraction none, cs)
  | [] => some (numberValue negative whole fraction none, cs)

mutual

/-- A value at the head of the characters, after a gap. -/
def readValue : Nat → List Char → Option (Tree × List Char)
  | 0, _ => none
  | fuel + 1, cs =>
    match skipGap cs with
    | '"' :: rest => (stringRest [] true rest).map fun (s, rest) => (.string s, rest)
    | '[' :: rest =>
      match skipGap rest with
      | ']' :: rest => some (.array [], rest)
      | _ => (readItems fuel rest).map fun (items, rest) => (.array items, rest)
    | '{' :: rest =>
      match skipGap rest with
      | '}' :: rest => some (.object [], rest)
      | _ => (readFields fuel rest).map fun (fields, rest) => (.object fields, rest)
    | 'n' :: 'u' :: 'l' :: 'l' :: rest => some (.null, rest)
    | 't' :: 'r' :: 'u' :: 'e' :: rest => some (.bool true, rest)
    | 'f' :: 'a' :: 'l' :: 's' :: 'e' :: rest => some (.bool false, rest)
    | cs => (number? cs).map fun (n, rest) => (.number n, rest)

/-- The items of an array up to its closing bracket; there is at least one. -/
def readItems : Nat → List Char → Option (List Tree × List Char)
  | 0, _ => none
  | fuel + 1, cs =>
    match readValue fuel cs with
    | none => none
    | some (item, rest) =>
      match skipGap rest with
      | ']' :: rest => some ([item], rest)
      | ',' :: rest => (readItems fuel rest).map fun (items, rest) => (item :: items, rest)
      | _ => none

/-- The fields of an object up to its closing brace; there is at least one. -/
def readFields : Nat → List Char → Option (List (Option String × Tree) × List Char)
  | 0, _ => none
  | fuel + 1, cs =>
    match skipGap cs with
    | '"' :: rest =>
      match stringRest [] true rest with
      | none => none
      | some (key, rest) =>
        match skipGap rest with
        | ':' :: rest =>
          match readValue fuel rest with
          | none => none
          | some (value, rest) =>
            match skipGap rest with
            | '}' :: rest => some ([(key, value)], rest)
            | ',' :: rest =>
              (readFields fuel rest).map fun (fields, rest) => ((key, value) :: fields, rest)
            | _ => none
        | _ => none
    | _ => none

end

namespace Tree

/-- The tree of a text that holds one value and nothing else. Every step of the reader takes a
character, so the length of the text bounds the steps. -/
def parse? (cs : List Char) : Option Tree :=
  match readValue (cs.length + 1) cs with
  | some (tree, rest) => if (skipGap rest).isEmpty then some tree else none
  | none => none

/-- How deep arrays and objects may be nested in a value that is read whole. -/
def maxDepth : Nat := 127

mutual

/-- The value of a tree, if all its leaves have one and it is at most `depth` containers deep. -/
def value? (depth : Nat) : Tree → Option Value
  | .null => some .null
  | .bool b => some (.bool b)
  | .number n => n.map .number
  | .string s => s.map .string
  | .array items => if depth = 0 then none else (items? (depth - 1) items).map .array
  | .object fields => if depth = 0 then none else (fields? (depth - 1) fields).map .ofFields

def items? (depth : Nat) : List Tree → Option (List Value)
  | [] => some []
  | t :: rest => do return (← value? depth t) :: (← items? depth rest)

def fields? (depth : Nat) : List (Option String × Tree) → Option (List (String × Value))
  | [] => some []
  | (key, t) :: rest => do return (← key, ← value? depth t) :: (← fields? depth rest)

end

mutual

def ofValue : Value → Tree
  | .null => .null
  | .bool b => .bool b
  | .number n => .number (some n)
  | .string s => .string (some s)
  | .array items => .array (ofItems items)
  | .object fields => .object (ofFields fields)

def ofItems : List Value → List Tree
  | [] => []
  | v :: rest => ofValue v :: ofItems rest

def ofFields : List (String × Value) → List (Option String × Tree)
  | [] => []
  | (k, v) :: rest => (some k, ofValue v) :: ofFields rest

end

end Tree

def Value.parse? (text : String) : Option Value :=
  (Tree.parse? text.toList).bind (Tree.value? Tree.maxDepth)

end IndicatorFeeds.Json

import IndicatorFeeds.Number.Shortest

namespace IndicatorFeeds.Json

/-- A number: an integer between `-2 ^ 63` and `2 ^ 64 - 1`, or a double. -/
inductive Number where
  | int (i : Int)
  | real (x : Binary64)
deriving Repr, DecidableEq

/-- A JSON value. Build objects with `Value.ofFields`. -/
inductive Value where
  | null
  | bool (b : Bool)
  | number (n : Number)
  | string (s : String)
  | array (items : List Value)
  | object (fields : List (String × Value))
deriving Repr, Inhabited

/-- The fields with one more; a field of that name is replaced. -/
def insertField (key : String) (value : Value) : List (String × Value) → List (String × Value)
  | [] => [(key, value)]
  | (k, v) :: rest =>
    if key < k then (key, value) :: (k, v) :: rest
    else if key = k then (key, value) :: rest
    else (k, v) :: insertField key value rest

namespace Value

/-- An object; of two fields of one name the later counts. -/
def ofFields (fields : List (String × Value)) : Value :=
  .object (fields.foldl (fun done (k, v) => insertField k v done) [])

def int (i : Int) : Value := .number (.int i)

def nat (n : Nat) : Value := .number (.int n)

def strings (items : List String) : Value := .array (items.map .string)

/-- `null` where there is no value. -/
def ofOption (encode : α → Value) : Option α → Value
  | none => .null
  | some a => encode a

def field? (name : String) : Value → Option Value
  | .object fields => (fields.find? (·.1 = name)).map (·.2)
  | _ => none

/-- The field of an object, `null` if there is none. -/
def field (value : Value) (name : String) : Value :=
  (value.field? name).getD .null

def string? : Value → Option String
  | .string s => some s
  | _ => none

def array? : Value → Option (List Value)
  | .array items => some items
  | _ => none

end Value

private def hexPair (n : Nat) : List Char :=
  let digit (d : Nat) : Char := if d < 10 then Char.ofNat (0x30 + d) else Char.ofNat (0x57 + d)
  [digit (n / 16 % 16), digit (n % 16)]

/-- A character inside a JSON string: quotes, backslashes and the controls below the space are
escaped, everything else stands for itself. -/
def escapeChar (c : Char) : List Char :=
  if c = '"' then ['\\', '"']
  else if c = '\\' then ['\\', '\\']
  else if c.toNat < 0x20 then
    if c = '\n' then ['\\', 'n']
    else if c = '\r' then ['\\', 'r']
    else if c = '\t' then ['\\', 't']
    else if c.toNat = 0x08 then ['\\', 'b']
    else if c.toNat = 0x0c then ['\\', 'f']
    else '\\' :: 'u' :: '0' :: '0' :: hexPair c.toNat
  else [c]

def printString (s : String) : List Char :=
  '"' :: s.toList.flatMap escapeChar ++ ['"']

def printNumber : Number → List Char
  | .int i => (toString i).toList
  | .real x => x.render

mutual

def Value.print : Value → List Char
  | .null => ['n', 'u', 'l', 'l']
  | .bool true => ['t', 'r', 'u', 'e']
  | .bool false => ['f', 'a', 'l', 's', 'e']
  | .number n => printNumber n
  | .string s => printString s
  | .array items => '[' :: printItems items ++ [']']
  | .object fields => '{' :: printFields fields ++ ['}']

/-- The items of an array, with commas between them. -/
def printItems : List Value → List Char
  | [] => []
  | [item] => item.print
  | item :: rest => item.print ++ ',' :: printItems rest

/-- The fields of an object, with commas between them. -/
def printFields : List (String × Value) → List Char
  | [] => []
  | [(key, value)] => printString key ++ ':' :: value.print
  | (key, value) :: rest => printString key ++ ':' :: value.print ++ ',' :: printFields rest

end

def Value.render (value : Value) : String :=
  String.ofList value.print

end IndicatorFeeds.Json

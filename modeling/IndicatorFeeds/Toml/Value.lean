import IndicatorFeeds.Json.Tree

namespace IndicatorFeeds.Toml

inductive Value where
  | string (s : String)
  | integer (i : Int)
  /-- A floating-point number, `none` if it is infinite or no number. -/
  | real (x : Option Binary64)
  | boolean (b : Bool)
  /-- A date, a time of day or both, as written. -/
  | datetime (written : String)
  | array (items : List Value)
  | table (fields : List (String × Value))
deriving Inhabited

namespace Value

/-- The key under which a tree holds a date or time. -/
def datetimeKey : String := "$datetime"

mutual

/-- The tree of a value. An integer that 64 bits do not hold is a leaf without a value. -/
def toTree : Value → Json.Tree
  | .string s => .string (some s)
  | .integer i =>
    .number (if -0x8000000000000000 ≤ i && i < 0x10000000000000000 then some (.int i) else none)
  | .real x => .number (x.map .real)
  | .boolean b => .bool b
  | .datetime written => .object [(some datetimeKey, .string (some written))]
  | .array items => .array (itemTrees items)
  | .table fields => .object (fieldTrees fields)

def itemTrees : List Value → List Json.Tree
  | [] => []
  | v :: rest => v.toTree :: itemTrees rest

def fieldTrees : List (String × Value) → List (Option String × Json.Tree)
  | [] => []
  | (key, v) :: rest => (some key, v.toTree) :: fieldTrees rest

end

end Value

end IndicatorFeeds.Toml

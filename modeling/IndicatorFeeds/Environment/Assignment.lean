import IndicatorFeeds.Environment.Basic
import IndicatorFeeds.Environment.Line
import IndicatorFeeds.Text.Alphanumeric

/-!
Assignments to variables, one a line: `NAME=value`, perhaps after `export`. In a value, double
quotes and the bare text know escapes and the variables set before, single quotes neither.
-/

namespace IndicatorFeeds.Environment

/-- Where in a value the characters read so far have led; `weak` says whether double quotes are
open. -/
inductive ValuePosition where
  | text (weak : Bool)
  | strong
  | escape (weak : Bool)
  /-- After `$`, with the name so far, the last character first. -/
  | name (weak : Bool) (done : List Char)
  /-- The same after `${`. -/
  | bracedName (weak : Bool) (done : List Char)
  /-- After a blank: nothing more but a comment. -/
  | finished

/-- The characters that an escape may stand before to mean themselves. -/
private def isEscapable (c : Char) : Bool :=
  c = '\\' || c = '\'' || c = '"' || c = '$' || c = ' '

/-- The value of a variable with this name, backwards; nothing if it is not set. -/
private def substitute (env : Environment) (done out : List Char) : List Char :=
  ((env.get? (String.ofList done.reverse)).getD "").toList.reverse ++ out

/-- Reads a value from a position. `out` is the value so far, backwards, and `index` counts the
characters before. The error is an index. -/
private def readValue (env : Environment) (position : ValuePosition) (out : List Char)
    (index : Nat) : List Char → Except (Option Nat) (List Char)
  | [] =>
    match position with
    | .strong | .text true | .escape true | .name true _ | .bracedName _ _ => .error none
    | .name false done => .ok (substitute env done out)
    | _ => .ok out
  | c :: rest =>
    match position with
    | .finished =>
      if c = ' ' || c = '\t' then readValue env .finished out (index + 1) rest
      else if c = '#' then .ok out
      else .error (some index)
    | .escape weak =>
      if isEscapable c then readValue env (.text weak) (c :: out) (index + 1) rest
      else if c = 'n' then readValue env (.text weak) ('\n' :: out) (index + 1) rest
      else .error (some index)
    | .strong =>
      if c = '\'' then readValue env (.text false) out (index + 1) rest
      else readValue env .strong (c :: out) (index + 1) rest
    | .name weak done =>
      if Text.isAlphanumeric c then readValue env (.name weak (c :: done)) out (index + 1) rest
      else if c = '{' && done.isEmpty then
        readValue env (.bracedName weak []) out (index + 1) rest
      else
        let out := substitute env done out
        if c = '$' then readValue env (.name weak []) out (index + 1) rest
        else readValue env (.text weak) (c :: out) (index + 1) rest
    | .bracedName weak done =>
      if c = '}' then readValue env (.text weak) (substitute env done out) (index + 1) rest
      else readValue env (.bracedName weak (c :: done)) out (index + 1) rest
    | .text weak =>
      if c = '$' then readValue env (.name weak []) out (index + 1) rest
      else if c = '"' then readValue env (.text !weak) out (index + 1) rest
      else if c = '\\' then readValue env (.escape weak) out (index + 1) rest
      else if !weak && c = '\'' then readValue env .strong out (index + 1) rest
      else if !weak && (c = ' ' || c = '\t') then
        readValue env .finished out (index + 1) rest
      else readValue env (.text weak) (c :: out) (index + 1) rest

def value (env : Environment) (text : List Char) : Except Refusal String :=
  match readValue env (.text false) [] 0 text with
  | .ok out => .ok (String.ofList out.reverse)
  | .error (some index) => .error ⟨String.ofList text, index⟩
  | .error none => .error ⟨String.ofList text, (String.ofList text).utf8ByteSize - 1⟩

private def startsName (c : Char) : Bool := c.isAlpha || c = '_'

private def inName (c : Char) : Bool := c.isAlphanum || c = '_' || c = '.'

/-- A name at the head of the characters, and what follows it and its blanks. -/
private def takeName : List Char → Option (String × List Char)
  | c :: rest =>
    if startsName c then
      some (String.ofList ((c :: rest).takeWhile inName),
        Text.trimStart ((c :: rest).dropWhile inName))
    else none
  | [] => none

/-- The name and the value that a line sets, the latter still as written; nothing if it sets
none. Where it fails, the characters left over say how far it was read. -/
private def split (cs : List Char) : Except (List Char) (Option (String × List Char)) := do
  let cs := Text.trimStart cs
  if cs.isEmpty || cs.head? = some '#' then return none
  let (name, rest) ← named cs
  match rest with
  | '=' :: rest => return some (name, Text.trimStart rest)
  | _ =>
    if name = "export" then
      match ← named rest with
      | (name, '=' :: rest) => return some (name, Text.trimStart rest)
      | (_, rest) => throw rest
    else throw rest
where
  named (cs : List Char) : Except (List Char) (String × List Char) :=
    match takeName cs with
    | some named => .ok named
    | none => .error cs

def assignment? (env : Environment) (line : List Char) :
    Except Refusal (Option (String × String)) := do
  let text := Text.trimEnd line
  match split text with
  | .error left =>
    throw ⟨String.ofList line,
      (String.ofList text).utf8ByteSize - (String.ofList left).utf8ByteSize⟩
  | .ok none => return none
  | .ok (some (name, written)) =>
    if written.isEmpty || written.head? = some '#' then return some (name, "")
    else return some (name, ← value env written)

end IndicatorFeeds.Environment

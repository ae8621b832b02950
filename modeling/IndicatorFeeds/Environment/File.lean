import IndicatorFeeds.Environment.Assignment
import IndicatorFeeds.Fault
import IndicatorFeeds.Files
import IndicatorFeeds.Text.Utf8

/-!
Files of variables. A file that cannot be read adds what stands before the first line that is not
UTF-8; a line that is no assignment is refused, and a value that no variable can have is a fault.
-/

namespace IndicatorFeeds.Environment

/-- The items between separators, each with the separator after it. -/
private def pieces (isEnd : α → Bool) (done : List α) : List α → List (List α)
  | [] => if done.isEmpty then [] else [done.reverse]
  | a :: rest =>
    if isEnd a then (a :: done).reverse :: pieces isEnd [] rest
    else pieces isEnd (a :: done) rest

/-- The parts of a file between its line breaks, without a byte order mark at the start. -/
private def parts : FileContent → Option (List (Option (List Char)))
  | .text s =>
    let cs := match s.toList with
      | '\ufeff' :: rest => rest
      | cs => cs
    some ((pieces (· = '\n') [] cs).map some)
  | .bytes content =>
    let content := match content with
      | 0xef :: 0xbb :: 0xbf :: rest => rest
      | content => content
    some ((pieces (· = 0x0a) [] content).map fun part => (Text.decodeUtf8 part).toOption)
  | .directory | .missing _ => none

/-- How adding the variables of a file can end without them. -/
inductive Failure where
  | refused (why : Refusal)
  | fault (f : Fault)
deriving Repr, DecidableEq

/-- The environment with one more variable, if it is not set already. A value that is set has no
NUL character. -/
def set (env : Environment) (name value : String) : Except Fault Environment :=
  if (env.get? name).isNone && value.toList.contains '\x00' then
    .error (.unsettableVariable name value)
  else .ok (env.add name value)

/-- The environment with the variables of some parts of a file, and whether all could be read. -/
private def addParts (env : Environment) (parts : List (Option (List Char))) :
    Except Failure (Environment × Bool) :=
  match _h : nextLine [] .bare parts with
  | .none => .ok (env, true)
  | .unreadable => .ok (env, false)
  | .refused why => .error (.refused why)
  | .line text rest =>
    match assignment? env text with
    | .error why => .error (.refused why)
    | .ok none => addParts env rest
    | .ok (some (name, value)) =>
      match env.set name value with
      | .error f => .error (.fault f)
      | .ok env => addParts env rest
termination_by parts.length
decreasing_by all_goals exact length_rest_lt _h

/-- The environment with the variables of a file, and whether there was one that could be read. -/
def addFile (env : Environment) (content : FileContent) : Except Failure (Environment × Bool) :=
  match parts content with
  | none => .ok (env, false)
  | some parts => env.addParts parts

end IndicatorFeeds.Environment

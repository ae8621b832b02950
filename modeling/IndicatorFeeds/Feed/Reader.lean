import IndicatorFeeds.Feed.Metadata
import IndicatorFeeds.Http.Basic

/-!
Reading a feed: the lines of its body, the header among them, and the rows that follow it. What
can be read is read up to the first failure, which ends lines and rows alike.
-/

namespace IndicatorFeeds.Feed

/-- The lines of a body up to the first that cannot be read, and why that one cannot. -/
structure Lines where
  texts : List String
  failure : Option String
deriving Repr, DecidableEq

private def lineFeed : UInt8 := 0x0a

/-- The bytes of the first line with its end, and those after it. -/
def cutLine (bytes : List UInt8) : List UInt8 × List UInt8 :=
  let line := bytes.takeWhile (· ≠ lineFeed)
  (line ++ (bytes.drop line.length).take 1, bytes.drop (line.length + 1))

theorem length_cutLine_snd (b : UInt8) (bs : List UInt8) :
    (cutLine (b :: bs)).2.length ≤ bs.length := by
  simp only [cutLine, List.length_drop, List.length_cons]
  omega

theorem cutLine_append {line : List UInt8} (single : ∀ b ∈ line, b ≠ 0x0a) (rest : List UInt8) :
    cutLine (line ++ 0x0a :: rest) = (line ++ [0x0a], rest) := by
  have others : ∀ b ∈ line, decide (b ≠ lineFeed) = true := fun b member =>
    decide_eq_true (single b member)
  have start : (line ++ 0x0a :: rest).takeWhile (· ≠ lineFeed) = line := by
    rw [List.takeWhile_append_of_pos others]
    simp [lineFeed]
  simp only [cutLine, start]
  simp

theorem cutLine_eq_self {line : List UInt8} (single : ∀ b ∈ line, b ≠ 0x0a) :
    cutLine line = (line, []) := by
  have others : ∀ b ∈ line, decide (b ≠ lineFeed) = true := fun b member =>
    decide_eq_true (single b member)
  have start : line.takeWhile (· ≠ lineFeed) = line := by
    rw [← List.append_nil line, List.takeWhile_append_of_pos others]
    rfl
  simp only [cutLine, start]
  simp

/-- A line without its end. -/
def withoutEnd (line : List Char) : List Char :=
  match line.reverse with
  | '\n' :: '\r' :: rest => rest.reverse
  | '\n' :: rest => rest.reverse
  | _ => line

/-- The lines of the bytes. Where the body breaks off, the line it breaks off in is lost. -/
def linesOf (complete : Bool) : List UInt8 → Lines
  | [] => ⟨[], if complete then none else some Http.Reply.unreadable⟩
  | b :: bs =>
    let line := (cutLine (b :: bs)).1
    if !complete && line.getLast? ≠ some lineFeed then ⟨[], some Http.Reply.unreadable⟩
    else match Text.decodeUtf8 line with
      | .error refusal => ⟨[], some refusal.message⟩
      | .ok cs =>
        let more := linesOf complete (cutLine (b :: bs)).2
        { more with texts := String.ofList (withoutEnd cs) :: more.texts }
termination_by bytes => bytes.length
decreasing_by exact Nat.lt_succ_of_le (length_cutLine_snd b bs)

def Lines.ofReply (reply : Http.Reply) : Lines := linesOf reply.complete reply.body

/-- Whether a line stands before the header: it is empty or starts with `#` or a blank. -/
def isPreamble (line : String) : Bool :=
  match line.toList with
  | [] => true
  | c :: _ => c = '#' || Text.isBlank c

/-- Whether a line stands between rows: it is blank or starts with `#`. -/
def isIgnorable (line : String) : Bool :=
  Text.isBlankText line || line.toList.head? = some '#'

/-- The fields of one line. -/
abbrev Row := List String

/-- An opened feed: its header, its rows up to the first failure, and the failure. -/
structure Reader where
  fields : List String
  rows : List Row
  failure : Option Error
deriving Repr, DecidableEq

/-- What a body that cannot be read to its end is reported as. -/
def bodyError (reason : String) : Error := .fetch s!"reading feed body: {reason}"

/-- The rows of the lines after the header. -/
def readRows (parse : String → Except Error Row) (failure : Option String) :
    List String → List Row × Option Error
  | [] => ([], failure.map bodyError)
  | line :: rest =>
    if isIgnorable line then readRows parse failure rest
    else match parse line with
      | .error e => ([], some e)
      | .ok row =>
        let (rows, failure) := readRows parse failure rest
        (row :: rows, failure)

/-- The header that a feed without one is given. -/
def columnNames (count : Nat) : List String :=
  (List.range count).map fun i => s!"column_{i}"

/-- Opens a feed: looks for the header, and checks that it has the indicator's column. -/
def Reader.ofLines (feed : Metadata) (lines : Lines) : Except Error Reader := do
  let parse ← feed.format.parser
  match lines.texts.dropWhile isPreamble with
  | [] =>
    match lines.failure with
    | some reason => throw (bodyError reason)
    | none => throw (.parse s!"feed {feed.feedId} has no header or data")
  | first :: rest =>
    let cells ← parse first
    if cells.all (·.isEmpty) then throw (.parse s!"feed {feed.feedId} has an empty header")
    let fields := if feed.hasHeader then cells else columnNames cells.length
    let column := feed.indicatorColumn.toNat
    if fields.length ≤ column then
      throw (.parse
        s!"feed {feed.feedId} has {fields.length} columns, indicator column is {column}")
    let (rows, failure) := readRows parse lines.failure rest
    return ⟨fields, if feed.hasHeader then rows else cells :: rows, failure⟩

end IndicatorFeeds.Feed

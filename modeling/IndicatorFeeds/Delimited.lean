import IndicatorFeeds.Error
import IndicatorFeeds.Text.Blank
import IndicatorFeeds.Text.Quoted

/-!
Delimited text, one record a line. A field that starts with a double quote reads up to its closing
quote, with a quote inside written twice; everywhere else a quote is an ordinary character. The
fields come without the blanks around them.
-/

namespace IndicatorFeeds

/-- A character that may stand between fields. -/
structure Delimiter where
  char : Char
  usable : char.toNat < 0x80 ∧ char ≠ '"' ∧ char ≠ '\n'
deriving DecidableEq

namespace Delimiter

def ofChar (c : Char) : Except Error Delimiter :=
  if h : c.toNat < 0x80 ∧ c ≠ '"' ∧ c ≠ '\n' then .ok ⟨c, h⟩
  else .error (.validation s!"unsupported feed delimiter {Text.quotedChar c}")

theorem char_of_ofChar {c : Char} {d : Delimiter} (accepted : ofChar c = .ok d) : d.char = c := by
  unfold ofChar at accepted
  split at accepted
  · exact (congrArg Delimiter.char (Except.ok.inj accepted)).symm
  · cases accepted

end Delimiter

namespace Delimited

/-- Where in a record the reader stands. -/
inductive Place where
  /-- Before the first character of a field. -/
  | fieldStart
  /-- In a field, outside of quotes. -/
  | bare
  /-- In a field, inside of quotes. -/
  | quoted
  /-- After a quote that closes the quotes, unless another one follows. -/
  | afterQuote
deriving Repr, DecidableEq

/-- The characters that end a record. -/
def isLineEnd (c : Char) : Bool := c = '\r' || c = '\n'

/-- What a character does to the record being read. -/
inductive Move where
  /-- It belongs to the field. -/
  | keep (place : Place)
  /-- It only changes the place. -/
  | skip (place : Place)
  | endField
  | endRecord
deriving Repr, DecidableEq

/-- The move of a character that stands outside of quotes and is no quote with a meaning. -/
def plainMove (d : Delimiter) (c : Char) : Move :=
  if c = d.char then .endField else if isLineEnd c then .endRecord else .keep .bare

/-- The move of a character. -/
def move (d : Delimiter) (place : Place) (c : Char) : Move :=
  match place with
  | .fieldStart => if c = '"' then .skip .quoted else plainMove d c
  | .bare => plainMove d c
  | .quoted => if c = '"' then .skip .afterQuote else .keep .quoted
  | .afterQuote => if c = '"' then .keep .quoted else plainMove d c

/-- The fields of the record that the characters go on with, the first of which has begun with
`field` (its last character first), and the place where the record ends. -/
def scan (d : Delimiter) (place : Place) (field : List Char) :
    List Char → List (List Char) × Place
  | [] => ([field.reverse], place)
  | c :: rest =>
    match move d place c with
    | .keep place => scan d place (c :: field) rest
    | .skip place => scan d place field rest
    | .endRecord => ([field.reverse], place)
    | .endField =>
      let (fields, place) := scan d .fieldStart [] rest
      (field.reverse :: fields, place)

/-- The text where a line's record starts: after a byte order mark and after line ends. -/
def recordStart (line : List Char) : List Char :=
  let line := match line with
    | '\ufeff' :: rest => rest
    | _ => line
  line.dropWhile isLineEnd

/-- The fields of the line's first record, as they are written; a line may have no record. -/
def rawFields (d : Delimiter) (line : List Char) : List (List Char) :=
  match recordStart line with
  | [] => []
  | start => (scan d .fieldStart [] start).1

/-- Whether a line ends while its record is inside of quotes. -/
def endsQuoted (d : Delimiter) (line : List Char) : Bool :=
  (scan d .fieldStart [] (recordStart line)).2 = .quoted

/-- Whether the quotes of a line do not pair up. -/
def hasOddQuotes (line : List Char) : Bool := line.count '"' % 2 = 1

def parseLine (d : Delimiter) (line : String) : Except Error (List String) :=
  if hasOddQuotes line.toList then
    .error (.parse s!"unterminated quoted field in line {Text.quoted line}")
  else .ok ((rawFields d line.toList).map fun field => String.ofList (Text.trimChars field))

end Delimited

end IndicatorFeeds

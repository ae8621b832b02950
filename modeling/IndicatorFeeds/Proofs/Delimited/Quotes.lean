import IndicatorFeeds.Delimited
import Mathlib.Algebra.Ring.Parity

/-!
Which lines are refused for their quotes. Quotes that open, close or are doubled pair up unless the line
ends inside of quotes. The quotes that are left over have no meaning to the reader; they are counted
nevertheless, so that an odd number of them makes a line one that is refused.
-/

namespace IndicatorFeeds.Delimited

/-- The number of quotes without a meaning in what follows: those that stand in a field outside of
quotes, and those after the record. -/
def strayQuotesFrom (d : Delimiter) (place : Place) : List Char → Nat
  | [] => 0
  | c :: rest =>
    match move d place c with
    | .keep next => (if c = '"' ∧ next = .bare then 1 else 0) + strayQuotesFrom d next rest
    | .skip next => strayQuotesFrom d next rest
    | .endField => strayQuotesFrom d .fieldStart rest
    | .endRecord => rest.count '"'

/-- The number of quotes without a meaning in a line. -/
def strayQuotes (d : Delimiter) (line : List Char) : Nat :=
  strayQuotesFrom d .fieldStart (recordStart line)

/-- How many quotes are open. -/
def Place.openQuotes : Place → Nat
  | .quoted => 1
  | _ => 0

theorem Place.openQuotes_eq (place : Place) :
    place.openQuotes = if place = .quoted then 1 else 0 := by
  cases place <;> rfl

variable {d : Delimiter} {place : Place} {c : Char}

theorem move_quote (d : Delimiter) (place : Place) : move d place '"' = match place with
    | .fieldStart => .skip .quoted
    | .bare => .keep .bare
    | .quoted => .skip .afterQuote
    | .afterQuote => .keep .quoted := by
  have other : '"' ≠ d.char := Ne.symm d.usable.2.1
  cases place <;> simp [move, plainMove, other, isLineEnd]

theorem move_inside (other : c ≠ '"') : move d .quoted c = .keep .quoted := if_neg other

theorem move_outside (other : c ≠ '"') (outside : place ≠ .quoted) :
    move d place c = plainMove d c := by
  cases place with
  | fieldStart => exact if_neg other
  | bare => rfl
  | quoted => exact absurd rfl outside
  | afterQuote => exact if_neg other

theorem plainMove_cases (d : Delimiter) (c : Char) :
    (c = d.char ∧ plainMove d c = .endField) ∨
      (isLineEnd c = true ∧ plainMove d c = .endRecord) ∨ plainMove d c = .keep .bare := by
  unfold plainMove
  split
  · exact .inl ⟨‹_›, rfl⟩
  · split
    · exact .inr (.inl ⟨‹_›, rfl⟩)
    · exact .inr (.inr rfl)

/-- The quotes that go on from a place leave as many open as there are in the end, if those without a
meaning are set aside, or two more or less. -/
private theorem count_quotes_mod (d : Delimiter) (place : Place) (field rest : List Char) :
    (rest.count '"' + place.openQuotes) % 2 =
      (strayQuotesFrom d place rest + (scan d place field rest).2.openQuotes) % 2 := by
  induction rest generalizing place field with
  | nil => simp [strayQuotesFrom, scan]
  | cons c rest ih =>
    by_cases quote : c = '"'
    · subst quote
      rw [List.count_cons_self, strayQuotesFrom, scan, move_quote]
      cases place with
      | fieldStart =>
        have rest := ih .quoted field
        simp only [Place.openQuotes] at rest ⊢
        omega
      | bare =>
        have rest := ih .bare ('"' :: field)
        simp only [Place.openQuotes, and_self, if_true] at rest ⊢
        omega
      | quoted =>
        have rest := ih .afterQuote field
        simp only [Place.openQuotes] at rest ⊢
        omega
      | afterQuote =>
        have rest := ih .quoted ('"' :: field)
        simp only [Place.openQuotes, reduceCtorEq, and_false, if_false] at rest ⊢
        omega
    · rw [List.count_cons_of_ne quote, strayQuotesFrom, scan]
      by_cases inside : place = .quoted
      · subst inside
        rw [move_inside quote]
        simpa [quote] using ih .quoted (c :: field)
      · have closed : place.openQuotes = 0 := by rw [Place.openQuotes_eq, if_neg inside]
        rw [move_outside quote inside, closed]
        rcases plainMove_cases d c with ⟨-, moved⟩ | ⟨-, moved⟩ | moved
        · simpa [moved, Place.openQuotes] using ih .fieldStart []
        · simp [moved, closed]
        · simpa [moved, quote, Place.openQuotes] using ih .bare (c :: field)

private theorem count_recordStart (line : List Char) :
    (recordStart line).count '"' = line.count '"' := by
  have skips (cs : List Char) : (cs.dropWhile isLineEnd).count '"' = cs.count '"' := by
    induction cs with
    | nil => rfl
    | cons c rest ih =>
      by_cases ends : isLineEnd c
      · have other : c ≠ '"' := by
          rintro rfl
          exact absurd ends (by decide)
        rw [List.dropWhile_cons_of_pos ends, ih, List.count_cons_of_ne other]
      · rw [List.dropWhile_cons_of_neg ends]
  unfold recordStart
  split
  · rw [skips, List.count_cons_of_ne (by decide)]
  · exact skips line

/-- The quotes of a line do not pair up if it ends inside of quotes and those without a meaning do, or the
other way round. -/
theorem hasOddQuotes_iff (d : Delimiter) (line : List Char) :
    hasOddQuotes line = true ↔ (endsQuoted d line = true ↔ ¬Odd (strayQuotes d line)) := by
  have counted := count_quotes_mod d .fieldStart [] (recordStart line)
  rw [count_recordStart] at counted
  unfold hasOddQuotes endsQuoted strayQuotes
  rw [decide_eq_true_iff, decide_eq_true_iff, Nat.odd_iff]
  cases ends : (scan d .fieldStart [] (recordStart line)).2 with
  | quoted =>
    simp only [ends, Place.openQuotes, true_iff] at counted ⊢
    omega
  | _ =>
    simp only [ends, Place.openQuotes, reduceCtorEq, false_iff] at counted ⊢
    omega

theorem parseLine_eq_error_iff {line : String} {e : Error} :
    parseLine d line = .error e ↔ hasOddQuotes line.toList = true ∧
      e = .parse s!"unterminated quoted field in line {Text.quoted line}" := by
  unfold parseLine
  split
  · rename_i odd
    simp [odd, eq_comm]
  · rename_i even
    simp [even]

/-- A line that ends inside of quotes is refused if those without a meaning are even in number, and any
other line if they are odd: a field that is left open and an odd quote hide each other. -/
theorem parseLine_refused_iff {line : String} :
    parseLine d line = .error (.parse s!"unterminated quoted field in line {Text.quoted line}") ↔
      (endsQuoted d line.toList = true ↔ ¬Odd (strayQuotes d line.toList)) := by
  rw [parseLine_eq_error_iff, hasOddQuotes_iff d, and_iff_left rfl]

/-- Commas between the fields. -/
private def comma : Delimiter := ⟨',', by decide⟩

example : parseLine comma "5\" pipe,\"multi" = .ok ["5\" pipe", "multi"] := rfl

/-- A line is refused, as one with a field whose quotes are not closed, if it ends inside of quotes or has
an odd number of quotes without a meaning. Nothing is said here of a line with both. -/
theorem parseLine_unterminated_iff {line : String}
    (apart : ¬(endsQuoted d line.toList = true ∧ Odd (strayQuotes d line.toList))) :
    parseLine d line = .error (.parse s!"unterminated quoted field in line {Text.quoted line}") ↔
      endsQuoted d line.toList = true ∨ Odd (strayQuotes d line.toList) := by
  rw [parseLine_refused_iff]
  by_cases inside : endsQuoted d line.toList = true
  · have even : ¬Odd (strayQuotes d line.toList) := fun odd => apart ⟨inside, odd⟩
    simp [inside, even]
  · simp [inside]

/-- Sizes in inches, and a field that goes on in the next line. -/
private def inches : String := "5\" by 6\",\"say \"\"hi"

/-- Two quotes without a meaning do not keep a line from being refused for the one that is left open. -/
theorem parseLine_unterminated_inches :
    ¬(endsQuoted comma inches.toList = true ∧ Odd (strayQuotes comma inches.toList)) ∧
      parseLine comma inches =
        .error (.parse s!"unterminated quoted field in line {Text.quoted inches}") := by
  have inside : endsQuoted comma inches.toList = true := by decide
  have apart : ¬(endsQuoted comma inches.toList = true ∧ Odd (strayQuotes comma inches.toList)) := by
    intro both
    exact absurd both.2 (by decide)
  exact ⟨apart, (parseLine_unterminated_iff apart).mpr (.inl inside)⟩

/-- The second half of a field that has been broken in two. -/
private def secondHalf : String := "line\""

/-- A quote that stands in a field without quotes makes a line one that is refused, although nothing in it
is left open. -/
theorem literal_quote_refused : endsQuoted comma secondHalf.toList = false ∧
    parseLine comma secondHalf =
      .error (.parse s!"unterminated quoted field in line {Text.quoted secondHalf}") :=
  ⟨by decide, parseLine_eq_error_iff.mpr ⟨by decide, rfl⟩⟩

end IndicatorFeeds.Delimited

import IndicatorFeeds.Feed.Reader

/-!
Which lines of a feed are its data. The lines before the header, the header, blank lines and
comments are none; a feed without a header has its first line among them. A reader that has come to
the end of its feed has just these lines as its rows.
-/

namespace IndicatorFeeds.Feed

/-- The lines that hold data. -/
def dataLines (hasHeader : Bool) (lines : List String) : List String :=
  match lines.dropWhile isPreamble with
  | [] => []
  | first :: rest => (if hasHeader then [] else [first]) ++ rest.filter (!isIgnorable ·)

/-- The cells of a line, without the blanks around them. -/
def Format.cells : Format → String → List String
  | delimitedText c, line =>
    match Delimiter.ofChar c with
    | .ok d => (Delimited.rawFields d line.toList).map fun cell => .ofList (Text.trimChars cell)
    | .error _ => []

/-- The indicator of a line, if its cell is there and not empty. -/
def Metadata.indicatorOf? (feed : Metadata) (line : String) : Option String :=
  (feed.format.cells line)[feed.indicatorColumn.toNat]?.filter (!·.isEmpty)

variable {feed : Metadata} {lines : Lines} {reader : Reader}

private theorem eq_cells_of_parse {f : Format} {parse : String → Except Error Row}
    (parser : f.parser = .ok parse) {line : String} {row : Row} (parsed : parse line = .ok row) :
    row = f.cells line := by
  obtain ⟨c⟩ := f
  obtain ⟨d, usable, rfl⟩ := Format.parser_eq_ok_iff.mp parser
  unfold Delimited.parseLine at parsed
  split at parsed
  · cases parsed
  · simp only [Format.cells, usable]
    exact (Except.ok.inj parsed).symm

private theorem readRows_eq_map {f : Format} {parse : String → Except Error Row}
    (parser : f.parser = .ok parse) {failure : Option String} {texts : List String}
    (whole : (readRows parse failure texts).2 = none) :
    failure = none ∧
      (readRows parse failure texts).1 = (texts.filter (!isIgnorable ·)).map f.cells := by
  induction texts with
  | nil =>
    have none : failure.map bodyError = none := whole
    exact ⟨by simpa using none, rfl⟩
  | cons line rest ih =>
    unfold readRows at whole ⊢
    by_cases ignored : isIgnorable line
    · simp only [ignored, if_true] at whole ⊢
      simpa [ignored] using ih whole
    · simp only [ignored] at whole ⊢
      cases parsed : parse line with
      | error e => simp [parsed] at whole
      | ok row =>
        simp only [parsed] at whole
        obtain ⟨complete, rows⟩ := ih whole
        refine ⟨complete, ?_⟩
        rw [eq_cells_of_parse parser parsed]
        simp [ignored, rows]

/-- A feed is opened if its first line has cells, one of them not empty, and its header the column of
the indicator. -/
theorem Reader.ofLines_eq_ok_iff :
    Reader.ofLines feed lines = .ok reader ↔
      ∃ parse first rest cells, feed.format.parser = .ok parse ∧
        lines.texts.dropWhile isPreamble = first :: rest ∧ parse first = .ok cells ∧
          cells.all (·.isEmpty) = false ∧
            feed.indicatorColumn.toNat < reader.fields.length ∧
              reader.fields = (if feed.hasHeader then cells else columnNames cells.length) ∧
                reader.rows = (if feed.hasHeader then (readRows parse lines.failure rest).1
                  else cells :: (readRows parse lines.failure rest).1) ∧
                  reader.failure = (readRows parse lines.failure rest).2 := by
  constructor
  · intro opened
    unfold Reader.ofLines at opened
    obtain ⟨parse, parser, opened⟩ := ok_of_bind_ok opened
    cases texts : lines.texts.dropWhile isPreamble with
    | nil =>
      rw [texts] at opened
      dsimp only at opened
      split at opened <;> cases opened
    | cons first rest =>
      rw [texts] at opened
      obtain ⟨cells, parsed, opened⟩ := ok_of_bind_ok opened
      dsimp only at opened
      by_cases blank : cells.all (·.isEmpty)
      · rw [if_pos blank] at opened
        cases opened
      rw [if_neg blank] at opened
      by_cases short : (if feed.hasHeader then cells else columnNames cells.length).length ≤
          feed.indicatorColumn.toNat
      · rw [if_pos short] at opened
        cases opened
      rw [if_neg short] at opened
      obtain rfl := Except.ok.inj opened
      exact ⟨parse, first, rest, cells, parser, rfl, parsed, by simpa using blank,
        Nat.lt_of_not_le short, rfl, rfl, rfl⟩
  · rintro ⟨parse, first, rest, cells, parser, texts, parsed, named, column, fields, rows, failure⟩
    obtain ⟨header, all, broken⟩ := reader
    subst fields rows failure
    unfold Reader.ofLines
    have long := Nat.not_le_of_lt column
    dsimp only at long
    simp only [parser, texts, parsed, named, bind, Except.bind, Bool.false_eq_true, if_false,
      if_neg long, pure, Except.pure]

/-- A feed that has been read to its end has been read whole: its rows are its data lines. -/
theorem Reader.rows_eq_dataLines (opened : Reader.ofLines feed lines = .ok reader)
    (whole : reader.failure = none) :
    lines.failure = none ∧
      reader.rows = (dataLines feed.hasHeader lines.texts).map feed.format.cells := by
  obtain ⟨parse, first, rest, cells, parser, texts, parsed, -, -, -, all, failure⟩ :=
    Reader.ofLines_eq_ok_iff.mp opened
  obtain ⟨complete, rows⟩ := readRows_eq_map parser (failure.symm.trans whole)
  refine ⟨complete, ?_⟩
  rw [all, rows, dataLines, texts, eq_cells_of_parse parser parsed]
  cases feed.hasHeader <;> simp

/-- Lines can be read as a feed with this header: they are whole, the first one has cells, one of
them not empty, the header has the column of the indicator, and every line has cells that is not to
be ignored. -/
structure Readable (feed : Metadata) (header : List String) (lines : Lines) : Prop where
  whole : lines.failure = none
  column : feed.indicatorColumn.toNat < header.length
  parsed : ∃ parse first rest cells, feed.format.parser = .ok parse ∧
    lines.texts.dropWhile isPreamble = first :: rest ∧ parse first = .ok cells ∧
      cells.all (·.isEmpty) = false ∧
        header = (if feed.hasHeader then cells else columnNames cells.length) ∧
          ∀ line ∈ rest, isIgnorable line = false → ∃ row, parse line = .ok row

private theorem readRows_whole {parse : String → Except Error Row} {texts : List String}
    (parsed : ∀ line ∈ texts, isIgnorable line = false → ∃ row, parse line = .ok row) :
    (readRows parse none texts).2 = none := by
  induction texts with
  | nil => rfl
  | cons line rest ih =>
    obtain ⟨here, others⟩ := List.forall_mem_cons.mp parsed
    unfold readRows
    by_cases ignored : isIgnorable line
    · simpa [ignored] using ih others
    · obtain ⟨row, read⟩ := here (by simpa using ignored)
      simpa [ignored, read] using ih others

theorem Readable.opened {header : List String} (readable : Readable feed header lines) :
    ∃ reader, Reader.ofLines feed lines = .ok reader ∧ reader.fields = header ∧
      reader.failure = none := by
  obtain ⟨parse, first, rest, cells, parser, texts, parsed, named, rfl, rows⟩ := readable.parsed
  have whole := readRows_whole rows
  rw [← readable.whole] at whole
  exact ⟨⟨_, _, none⟩, Reader.ofLines_eq_ok_iff.mpr ⟨parse, first, rest, cells, parser, texts, parsed,
    named, readable.column, rfl, rfl, whole.symm⟩, rfl, rfl⟩

end IndicatorFeeds.Feed

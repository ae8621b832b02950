import IndicatorFeeds.Proofs.Delimited.LineEnds
import IndicatorFeeds.Proofs.Feed.DataLines
import IndicatorFeeds.Proofs.Feed.TextLines
import Mathlib.Data.List.Forall2
import Mathlib.Data.List.TakeWhile
import Mathlib.Logic.Relation

/-!
What the result of reading a feed depends on: the header or first row, and the lines after it that are not
to be ignored. A body may be reworded around these, by lines that are skipped, by a line feed at its end and
by carriage returns before its line feeds.
-/

namespace IndicatorFeeds

/-- The kind of an error. What could not be parsed is told without its words. -/
def Error.kind : Error → Error
  | .parse _ => .parse ""
  | e => e

namespace Feed

/-- What has been read of a feed, with its failure told without words. -/
def Reader.withoutWords (reader : Reader) : Reader :=
  { reader with failure := reader.failure.map Error.kind }

/-- What comes of opening a feed and reading it to its end: header, rows and the kind of the failure, or
the kind of the error that it is refused for. -/
def outcome (opened : Except Error Reader) : Except Error Reader :=
  (opened.map Reader.withoutWords).mapError Error.kind

/-- Opens a feed whose body is this text. -/
def Reader.ofText (feed : Metadata) (body : String) : Except Error Reader :=
  Reader.ofLines feed (Lines.ofText body.toList)

variable {feed : Metadata} {failure : Option String}

variable {parse : String → Except Error Row} {texts texts' : List String}

theorem readRows_filter (parse : String → Except Error Row) (failure : Option String)
    (texts : List String) :
    readRows parse failure (texts.filter (!isIgnorable ·)) = readRows parse failure texts := by
  induction texts with
  | nil => rfl
  | cons line rest ih =>
    by_cases ignored : isIgnorable line = true
    · rw [List.filter_cons_of_neg (by simp [ignored]), ih, readRows, if_pos ignored]
    · rw [List.filter_cons_of_pos (by simpa using ignored), readRows, readRows, if_neg ignored,
        if_neg ignored, ih]

/-- A reader sees nothing of the lines that would be no data even if the feed had no header. -/
theorem Reader.ofLines_eq_of_dataLines (same : dataLines false texts = dataLines false texts') :
    Reader.ofLines feed ⟨texts, failure⟩ = Reader.ofLines feed ⟨texts', failure⟩ := by
  unfold dataLines at same
  unfold Reader.ofLines
  cases lines : texts.dropWhile isPreamble with
  | nil =>
    cases lines' : texts'.dropWhile isPreamble with
    | nil => rfl
    | cons first' rest' => simp [lines, lines'] at same
  | cons first rest =>
    cases lines' : texts'.dropWhile isPreamble with
    | nil => simp [lines, lines'] at same
    | cons first' rest' =>
      simp only [lines, lines', Bool.false_eq_true, if_false, List.singleton_append,
        List.cons.injEq] at same
      obtain ⟨rfl, rows⟩ := same
      have read (parse : String → Except Error Row) :
          readRows parse failure rest = readRows parse failure rest' := by
        rw [← readRows_filter, rows, readRows_filter]
      simp only [read]

theorem dataLines_insert_preamble {before more after : List String}
    (early : ∀ line ∈ before, isPreamble line = true)
    (skipped : ∀ line ∈ more, isPreamble line = true) :
    dataLines false (before ++ (more ++ after)) = dataLines false (before ++ after) := by
  unfold dataLines
  rw [List.dropWhile_append_of_pos early, List.dropWhile_append_of_pos early,
    List.dropWhile_append_of_pos skipped]

theorem dataLines_insert_ignorable {before more after : List String}
    (late : ∃ line ∈ before, isPreamble line = false)
    (skipped : ∀ line ∈ more, isIgnorable line = true) :
    dataLines false (before ++ (more ++ after)) = dataLines false (before ++ after) := by
  cases header : before.dropWhile isPreamble with
  | nil =>
    obtain ⟨line, member, named⟩ := late
    have blank : isPreamble line = true := List.dropWhile_eq_nil_iff.mp header line member
    rw [named] at blank
    cases blank
  | cons first rest =>
    have dropped : more.filter (!isIgnorable ·) = [] :=
      List.filter_eq_nil_iff.mpr fun line member => by simp [skipped line member]
    unfold dataLines
    simp [List.dropWhile_append, header, dropped]

/-- Two lines are skipped in the same places, and read as the same row or both refused. -/
structure Alike (parse : String → Except Error Row) (line line' : String) : Prop where
  preamble : isPreamble line = isPreamble line'
  ignorable : isIgnorable line = isIgnorable line'
  read : (∃ row, parse line = .ok row ∧ parse line' = .ok row) ∨
    ∃ e e', parse line = .error e ∧ parse line' = .error e' ∧ e.kind = e'.kind

theorem Alike.refl (parse : String → Except Error Row) (line : String) : Alike parse line line := by
  refine ⟨rfl, rfl, ?_⟩
  cases parse line with
  | error e => exact .inr ⟨e, e, rfl, rfl, rfl⟩
  | ok row => exact .inl ⟨row, rfl, rfl⟩

theorem dropWhile_alike (alike : List.Forall₂ (Alike parse) texts texts') :
    List.Forall₂ (Alike parse) (texts.dropWhile isPreamble) (texts'.dropWhile isPreamble) := by
  induction alike with
  | nil => exact .nil
  | @cons line line' rest rest' here others ih =>
    by_cases early : isPreamble line = true
    · rw [List.dropWhile_cons_of_pos early, List.dropWhile_cons_of_pos (here.preamble ▸ early)]
      exact ih
    · rw [List.dropWhile_cons_of_neg early, List.dropWhile_cons_of_neg (here.preamble ▸ early)]
      exact .cons here others

theorem readRows_alike (failure : Option String) (alike : List.Forall₂ (Alike parse) texts texts') :
    (readRows parse failure texts).1 = (readRows parse failure texts').1 ∧
      (readRows parse failure texts).2.map Error.kind =
        (readRows parse failure texts').2.map Error.kind := by
  induction alike with
  | nil => exact ⟨rfl, rfl⟩
  | @cons line line' rest rest' here others ih =>
    unfold readRows
    rw [here.ignorable]
    by_cases ignored : isIgnorable line' = true
    · simpa only [if_pos ignored] using ih
    · rw [if_neg ignored, if_neg ignored]
      rcases here.read with ⟨row, parsed, parsed'⟩ | ⟨e, e', parsed, parsed', same⟩
      · rw [parsed, parsed']
        exact ⟨congrArg (row :: ·) ih.1, ih.2⟩
      · rw [parsed, parsed']
        exact ⟨rfl, congrArg some same⟩

theorem Reader.ofLines_alike
    (alike : ∀ parse, feed.format.parser = .ok parse → List.Forall₂ (Alike parse) texts texts') :
    outcome (Reader.ofLines feed ⟨texts, failure⟩) =
      outcome (Reader.ofLines feed ⟨texts', failure⟩) := by
  unfold Reader.ofLines
  cases parser : feed.format.parser with
  | error e => rfl
  | ok parse =>
    have rest := dropWhile_alike (alike parse parser)
    generalize texts.dropWhile isPreamble = lines at rest
    generalize texts'.dropWhile isPreamble = lines' at rest
    cases rest with
    | nil => rfl
    | @cons first first' others others' here rest =>
      obtain ⟨rows, failures⟩ := readRows_alike failure rest
      rcases here.read with ⟨cells, parsed, parsed'⟩ | ⟨e, e', parsed, parsed', same⟩
      · simp only [bind, Except.bind, parsed, parsed']
        by_cases blank : cells.all (·.isEmpty) = true
        · rw [if_pos blank, if_pos blank]
          rfl
        rw [if_neg blank, if_neg blank]
        by_cases short : (if feed.hasHeader then cells else columnNames cells.length).length ≤
            feed.indicatorColumn.toNat
        · rw [if_pos short, if_pos short]
          rfl
        rw [if_neg short, if_neg short]
        show Except.ok (Reader.withoutWords _) = Except.ok (Reader.withoutWords _)
        simp only [Reader.withoutWords, rows, failures]
      · simpa [bind, Except.bind, parsed, parsed', outcome, Except.map, Except.mapError] using same

/-- A line as it stands in a text: with its line feed, which only the last one may lack. -/
def Line (line ending after : String) : Prop :=
  '\n' ∉ line.toList ∧ (ending = "\n" ∨ ending = "" ∧ after = "")

/-- A change to the body of a feed that leaves what the body says. -/
inductive Rewording (feed : Metadata) : String → String → Prop where
  /-- One more line stands before the header. -/
  | preamble (before line ending after : String) (start : EndsLine before.toList)
      (whole : Line line ending after)
      (early : ∀ other ∈ (Lines.ofText before.toList).texts, isPreamble other = true)
      (skipped : isPreamble line = true) :
      Rewording feed (before ++ after) (before ++ line ++ ending ++ after)
  /-- One more line without data stands after the header. -/
  | ignorable (before line ending after : String) (start : EndsLine before.toList)
      (whole : Line line ending after)
      (late : ∃ other ∈ (Lines.ofText before.toList).texts, isPreamble other = false)
      (skipped : isIgnorable line = true) :
      Rewording feed (before ++ after) (before ++ line ++ ending ++ after)
  /-- The last line has its line feed. It must not end with a carriage return that is a delimiter: this
  would become a part of the line's end. -/
  | lineFeed (body : String) (missing : body.toList.getLast? ≠ some '\n')
      (apart : body.toList.getLast? = some '\r' → feed.format ≠ .delimitedText '\r') :
      Rewording feed body (body ++ "\n")
  /-- The lines end as they do on other systems. -/
  | returns (body : String) (bare : '\r' ∉ body.toList) :
      Rewording feed body (String.ofList (withReturns body.toList))

/-- A carriage return at the end of a line changes nothing about where it is skipped. -/
theorem isPreamble_append_return (line : List Char) :
    isPreamble (String.ofList (line ++ ['\r'])) = isPreamble (String.ofList line) := by
  unfold isPreamble
  rw [String.toList_ofList, String.toList_ofList]
  cases line with
  | nil => rfl
  | cons c rest => rfl

theorem isIgnorable_append_return (line : List Char) :
    isIgnorable (String.ofList (line ++ ['\r'])) = isIgnorable (String.ofList line) := by
  have blank : Text.isBlank '\r' = true := by decide
  unfold isIgnorable Text.isBlankText
  rw [String.toList_ofList, String.toList_ofList]
  cases line with
  | nil => rfl
  | cons c rest => simp [blank]

/-- What does not see a carriage return at the end of a line does not miss it. -/
private theorem eq_withoutReturn {skips : String → Bool}
    (blind : ∀ line, skips (String.ofList (line ++ ['\r'])) = skips (String.ofList line))
    (line : List Char) :
    skips (String.ofList (withoutReturn line)) = skips (String.ofList line) := by
  rcases withoutReturn_cases line with same | split
  · rw [same]
  · conv_rhs => rw [split, blind]

theorem isPreamble_withoutReturn (line : List Char) :
    isPreamble (String.ofList (withoutReturn line)) = isPreamble (String.ofList line) :=
  eq_withoutReturn isPreamble_append_return line

theorem isIgnorable_withoutReturn (line : List Char) :
    isIgnorable (String.ofList (withoutReturn line)) = isIgnorable (String.ofList line) :=
  eq_withoutReturn isIgnorable_append_return line

/-- Unless carriage returns are its delimiters, a reader takes a line to be like the line without the one
at its end. -/
theorem alike_withoutReturn {d : Delimiter} (noReturn : d.char ≠ '\r') (line : List Char) :
    Alike (Delimited.parseLine d) (String.ofList line) (String.ofList (withoutReturn line)) := by
  refine ⟨(isPreamble_withoutReturn line).symm, (isIgnorable_withoutReturn line).symm, ?_⟩
  rcases withoutReturn_cases line with same | split
  · rw [same]
    exact (Alike.refl _ _).read
  · have read := Delimited.parseLine_append_return noReturn (withoutReturn line)
    rw [← split] at read
    rcases read with same | ⟨words, words', refused, refused'⟩
    · exact .inl same
    · exact .inr ⟨_, _, refused, refused', rfl⟩

/-- What is read of a text with one more line: this line too, with a carriage return at its end or
without. -/
theorem ofText_insert {before line ending after : String} (start : EndsLine before.toList)
    (whole : Line line ending after) : ∃ more,
      Lines.ofText (before ++ line ++ ending ++ after).toList =
        ⟨(Lines.ofText before.toList).texts ++ (more ++ (Lines.ofText after.toList).texts), none⟩ ∧
      ∀ other ∈ more, isPreamble other = isPreamble line ∧ isIgnorable other = isIgnorable line := by
  obtain ⟨single, rfl | ⟨rfl, rfl⟩⟩ := whole
  · have text : (before ++ line ++ "\n" ++ after).toList =
        before.toList ++ (line.toList ++ '\n' :: after.toList) := by
      simp
    refine ⟨[String.ofList (withoutReturn line.toList)], ?_, ?_⟩
    · rw [text, Lines.ofText_append start, Lines.ofText_cons single]
      rfl
    · intro other member
      obtain rfl := List.mem_singleton.mp member
      rw [isPreamble_withoutReturn, isIgnorable_withoutReturn, String.ofList_toList]
      exact ⟨rfl, rfl⟩
  · have text : (before ++ line ++ "" ++ "").toList = before.toList ++ line.toList := by simp
    refine ⟨lastLine line.toList, ?_, ?_⟩
    · rw [text, Lines.ofText_append start, Lines.ofText_last single]
      simp [Lines.ofText_nil]
    · intro other member
      rw [eq_of_mem_lastLine member, String.ofList_toList]
      exact ⟨rfl, rfl⟩

variable {body body' : String}

/-- A last line that has no line feed is read as one that has. -/
theorem outcome_lineFeed (missing : body.toList.getLast? ≠ some '\n')
    (apart : body.toList.getLast? = some '\r' → feed.format ≠ .delimitedText '\r') :
    outcome (Reader.ofText feed body) = outcome (Reader.ofText feed (body ++ "\n")) := by
  have text : (body ++ "\n").toList = body.toList ++ ['\n'] := by simp
  unfold Reader.ofText
  rw [text]
  obtain ⟨lines, tail, split, whole, rest⟩ := exists_endedLines body.toList
  rw [split] at missing apart ⊢
  rw [Lines.ofText_endedLines_lineFeed whole rest, Lines.ofText_endedLines whole rest]
  by_cases more : tail = []
  · subst more
    -- Only the empty text has nothing after its last line feed and no line feed at its end.
    rcases endsLine_endedLines lines with empty | ends
    · obtain rfl : lines = [] :=
        List.eq_nil_iff_forall_not_mem.mpr (by simpa [endedLines] using empty)
      exact congrArg outcome (Reader.ofLines_eq_of_dataLines rfl)
    · exact absurd ends missing
  · rw [lastLine, if_neg more]
    refine Reader.ofLines_alike fun parse parser => ?_
    refine List.rel_append (List.forall₂_same.mpr fun line _ => Alike.refl parse line) (.cons ?_ .nil)
    cases format : feed.format with
    | delimitedText c =>
      rw [format] at parser apart
      obtain ⟨d, accepted, rfl⟩ := Format.parser_eq_ok_iff.mp parser
      obtain rfl := Delimiter.char_of_ofChar accepted
      by_cases noReturn : d.char = '\r'
      · have last : (endedLines lines tail).getLast? = tail.getLast? := getLast?_endedLines more
        have plain : withoutReturn tail = tail :=
          if_neg fun ends => apart (last.trans ends) (by rw [noReturn])
        rw [plain]
        exact Alike.refl _ _
      · exact alike_withoutReturn noReturn tail

/-- The result of reading a feed depends on its meaning only: it is the same for all bodies that are
rewordings of each other. -/
theorem outcome_reworded (changed : Relation.EqvGen (Rewording feed) body body') :
    outcome (Reader.ofText feed body) = outcome (Reader.ofText feed body') := by
  induction changed with
  | refl body => rfl
  | symm body body' _ ih => exact ih.symm
  | trans body body' body'' _ _ ih ih' => exact ih.trans ih'
  | rel body body' step =>
    cases step with
    | preamble before line ending after start whole early skipped =>
      obtain ⟨more, read, same⟩ := ofText_insert start whole
      have all : ∀ other ∈ more, isPreamble other = true := fun other member =>
        (same other member).1.trans skipped
      unfold Reader.ofText
      rw [read, String.toList_append, Lines.ofText_append start]
      exact congrArg outcome
        (Reader.ofLines_eq_of_dataLines (dataLines_insert_preamble early all).symm)
    | ignorable before line ending after start whole late skipped =>
      obtain ⟨more, read, same⟩ := ofText_insert start whole
      have all : ∀ other ∈ more, isIgnorable other = true := fun other member =>
        (same other member).2.trans skipped
      unfold Reader.ofText
      rw [read, String.toList_append, Lines.ofText_append start]
      exact congrArg outcome
        (Reader.ofLines_eq_of_dataLines (dataLines_insert_ignorable late all).symm)
    | lineFeed body missing apart => exact outcome_lineFeed missing apart
    | returns body bare =>
      unfold Reader.ofText
      rw [String.toList_ofList, Lines.ofText_withReturns bare]

private def feedUrl : Url where
  scheme := "https"
  authority := some ⟨"", none, .domain "feeds.test", none⟩
  path := .segments ["ips"]
  query := none
  fragment := none

private def plainFeed : Metadata := .delimited "ips" feedUrl

/-- How the feed begins, with its header. -/
private def opening : String := "# nightly\nip,tag\r\n"

private theorem header_opening (rest : String) :
    ∃ line ∈ (Lines.ofText (opening ++ rest).toList).texts, isPreamble line = false := by
  have split : opening.toList = endedLines ["# nightly".toList, "ip,tag\r".toList] [] := by decide
  have start : EndsLine opening.toList := split ▸ endsLine_endedLines _
  refine ⟨"ip,tag", ?_, by decide⟩
  rw [String.toList_append, Lines.ofText_append start, split,
    Lines.ofText_endedLines (by decide) (by decide)]
  exact List.mem_append_left _ (by decide)

/-- A feed that has been given an introduction, carriage returns, a blank line and a closing remark. -/
theorem outcome_reworded_nightly :
    Relation.EqvGen (Rewording plainFeed) "ip,tag\n1.2.3.4,bad"
        (opening ++ " \n1.2.3.4,bad\r\n# end") ∧
      outcome (Reader.ofText plainFeed "ip,tag\n1.2.3.4,bad") =
        outcome (Reader.ofText plainFeed (opening ++ " \n1.2.3.4,bad\r\n# end")) ∧
      outcome (Reader.ofText plainFeed (opening ++ " \n1.2.3.4,bad\r\n# end")) =
        .ok ⟨["ip", "tag"], [["1.2.3.4", "bad"]], none⟩ := by
  have ended : Rewording plainFeed "ip,tag\n1.2.3.4,bad" "ip,tag\n1.2.3.4,bad\n" :=
    .lineFeed _ (by decide) (by decide)
  have returned : Rewording plainFeed "ip,tag\n1.2.3.4,bad\n" "ip,tag\r\n1.2.3.4,bad\r\n" :=
    .returns _ (by decide)
  have introduced : Rewording plainFeed "ip,tag\r\n1.2.3.4,bad\r\n" (opening ++ "1.2.3.4,bad\r\n") :=
    .preamble "" "# nightly" "\n" "ip,tag\r\n1.2.3.4,bad\r\n" (.inl rfl) ⟨by decide, .inl rfl⟩
      (by simp [Lines.ofText_nil]) (by decide)
  have spaced : Rewording plainFeed (opening ++ "1.2.3.4,bad\r\n")
      (opening ++ " \n1.2.3.4,bad\r\n") :=
    .ignorable opening " " "\n" _ (.inr (by decide)) ⟨by decide, .inl rfl⟩ (header_opening "")
      (by decide)
  have closed : Rewording plainFeed (opening ++ " \n1.2.3.4,bad\r\n")
      (opening ++ " \n1.2.3.4,bad\r\n# end") :=
    .ignorable (opening ++ " \n1.2.3.4,bad\r\n") "# end" "" "" (.inr (by decide))
      ⟨by decide, .inr ⟨rfl, rfl⟩⟩ (header_opening _) (by decide)
  have changed : Relation.EqvGen (Rewording plainFeed) "ip,tag\n1.2.3.4,bad"
      (opening ++ " \n1.2.3.4,bad\r\n# end") :=
    (Relation.EqvGen.rel _ _ ended).trans _ _ _ <| (Relation.EqvGen.rel _ _ returned).trans _ _ _ <|
      (Relation.EqvGen.rel _ _ introduced).trans _ _ _ <|
      (Relation.EqvGen.rel _ _ spaced).trans _ _ _ (.rel _ _ closed)
  have read : outcome (Reader.ofText plainFeed "ip,tag\n1.2.3.4,bad") =
      .ok ⟨["ip", "tag"], [["1.2.3.4", "bad"]], none⟩ := by
    have text : "ip,tag\n1.2.3.4,bad".toList =
        endedLines ["ip,tag".toList] "1.2.3.4,bad".toList := by decide
    unfold Reader.ofText
    rw [text, Lines.ofText_endedLines (by decide) (by decide)]
    decide
  have same := outcome_reworded changed
  exact ⟨changed, same, same.symm.trans read⟩

/-- Carriage returns between the fields. -/
private def returnFeed : Metadata := { plainFeed with format := .delimitedText '\r' }

/-- A delimiter at the end of a header, and with it the field after it, is lost to a line feed if it is a
carriage return. -/
theorem delimiter_lost_to_lineFeed :
    outcome (Reader.ofText returnFeed "ip\rtag\r") = .ok ⟨["ip", "tag", ""], [], none⟩ ∧
      outcome (Reader.ofText returnFeed ("ip\rtag\r" ++ "\n")) = .ok ⟨["ip", "tag"], [], none⟩ := by
  have text : ("ip\rtag\r" ++ "\n").toList = endedLines ["ip\rtag\r".toList] [] := by decide
  unfold Reader.ofText
  rw [text, Lines.ofText_endedLines (by decide) (by decide), Lines.ofText_last (by decide)]
  decide

end Feed

end IndicatorFeeds

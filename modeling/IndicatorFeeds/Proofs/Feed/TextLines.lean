import IndicatorFeeds.Feed.Reader

namespace IndicatorFeeds.Feed

/-- The lines that are read of a text, if all of it arrives. -/
def Lines.ofText (text : List Char) : Lines := linesOf true (Text.encodeUtf8 text)

/-- A text of lines that line feeds end, and of what stands after them. -/
def endedLines (lines : List (List Char)) (tail : List Char) : List Char :=
  lines.flatMap (· ++ ['\n']) ++ tail

/-- A line without the carriage return it may end with. -/
def withoutReturn (line : List Char) : List Char :=
  if line.getLast? = some '\r' then line.dropLast else line

variable {line tail : List Char} {lines : List (List Char)}

theorem endedLines_cons (line : List Char) (lines : List (List Char)) (tail : List Char) :
    endedLines (line :: lines) tail = line ++ '\n' :: endedLines lines tail := by
  simp [endedLines]

theorem withoutReturn_append_return (line : List Char) : withoutReturn (line ++ ['\r']) = line := by
  simp [withoutReturn]

theorem withoutReturn_eq_self (bare : '\r' ∉ line) : withoutReturn line = line :=
  if_neg fun last => bare (List.mem_of_getLast? last)

theorem withoutReturn_cases (line : List Char) :
    withoutReturn line = line ∨ line = withoutReturn line ++ ['\r'] := by
  rcases line.eq_nil_or_concat with rfl | ⟨start, c, rfl⟩
  · exact .inl rfl
  · rw [List.concat_eq_append]
    by_cases same : c = '\r'
    · subst same
      exact .inr (by rw [withoutReturn_append_return])
    · exact .inl (by simp [withoutReturn, same])

theorem withoutEnd_append_lineFeed (line : List Char) :
    withoutEnd (line ++ ['\n']) = withoutReturn line := by
  rcases line.eq_nil_or_concat with rfl | ⟨start, c, rfl⟩
  · rfl
  · by_cases same : c = '\r'
    · subst same
      simp [withoutEnd, withoutReturn]
    · simp [withoutEnd, withoutReturn, same]

theorem withoutEnd_eq_self (single : '\n' ∉ line) : withoutEnd line = line := by
  rcases line.eq_nil_or_concat with rfl | ⟨start, c, rfl⟩
  · rfl
  · have other : c ≠ '\n' := by
      rintro rfl
      exact single (by simp)
    simp [withoutEnd, other]

private theorem encodeUtf8_ne_lineFeed (single : '\n' ∉ line) :
    ∀ b ∈ Text.encodeUtf8 line, b ≠ 0x0a := by
  rintro b member rfl
  exact single (Text.mem_of_mem_encodeUtf8 (by decide) (by decide) member)

theorem cutLine_encodeUtf8 (single : '\n' ∉ line) (rest : List Char) :
    cutLine (Text.encodeUtf8 (line ++ '\n' :: rest)) =
      (Text.encodeUtf8 (line ++ ['\n']), Text.encodeUtf8 rest) := by
  have lineFeed : String.utf8EncodeChar '\n' = [0x0a] := by decide
  have alone : Text.encodeUtf8 ['\n'] = [0x0a] := by
    rw [Text.encodeUtf8_eq_flatMap]
    exact lineFeed
  rw [Text.encodeUtf8_append, Text.encodeUtf8_append, Text.encodeUtf8_cons, lineFeed, alone]
  exact cutLine_append (encodeUtf8_ne_lineFeed single) (Text.encodeUtf8 rest)

theorem cutLine_encodeUtf8_last (single : '\n' ∉ line) :
    cutLine (Text.encodeUtf8 line) = (Text.encodeUtf8 line, []) :=
  cutLine_eq_self (encodeUtf8_ne_lineFeed single)

private theorem linesOf_cutLine {bytes rest : List UInt8} {text : List Char} (nonempty : bytes ≠ [])
    (cut : cutLine bytes = (Text.encodeUtf8 text, rest)) :
    linesOf true bytes =
      { linesOf true rest with
        texts := String.ofList (withoutEnd text) :: (linesOf true rest).texts } := by
  cases bytes with
  | nil => exact absurd rfl nonempty
  | cons b bs =>
    rw [linesOf, cut, Text.decodeUtf8_encodeUtf8]
    rfl

theorem Lines.ofText_nil : Lines.ofText [] = ⟨[], none⟩ := by
  rw [Lines.ofText, Text.encodeUtf8_eq_flatMap, List.flatMap_nil, linesOf]
  rfl

theorem Lines.ofText_cons (single : '\n' ∉ line) (rest : List Char) :
    Lines.ofText (line ++ '\n' :: rest) =
      { Lines.ofText rest with
        texts := String.ofList (withoutReturn line) :: (Lines.ofText rest).texts } := by
  have nonempty : Text.encodeUtf8 (line ++ '\n' :: rest) ≠ [] := by
    rw [Text.encodeUtf8_append, Text.encodeUtf8_cons]
    simp
  rw [← withoutEnd_append_lineFeed]
  exact linesOf_cutLine nonempty (cutLine_encodeUtf8 single rest)

/-- What stands after the lines of a text is a line unless it is empty. -/
def lastLine (tail : List Char) : List String :=
  if tail = [] then [] else [String.ofList tail]

theorem eq_of_mem_lastLine {text : String} (member : text ∈ lastLine tail) :
    text = String.ofList tail := by
  unfold lastLine at member
  split at member
  · cases member
  · exact List.mem_singleton.mp member

theorem Lines.ofText_last (rest : '\n' ∉ tail) : Lines.ofText tail = ⟨lastLine tail, none⟩ := by
  cases tail with
  | nil => exact Lines.ofText_nil
  | cons c others =>
    have nonempty : Text.encodeUtf8 (c :: others) ≠ [] := by
      rw [Text.encodeUtf8_cons]
      simp
    have cut := linesOf_cutLine nonempty (cutLine_encodeUtf8_last rest)
    rw [withoutEnd_eq_self rest, linesOf] at cut
    exact cut

theorem Lines.ofText_endedLines (whole : ∀ line ∈ lines, '\n' ∉ line) (rest : '\n' ∉ tail) :
    Lines.ofText (endedLines lines tail) =
      ⟨lines.map (fun line => String.ofList (withoutReturn line)) ++ lastLine tail, none⟩ := by
  induction lines with
  | nil => exact Lines.ofText_last rest
  | cons line lines ih =>
    obtain ⟨here, others⟩ := List.forall_mem_cons.mp whole
    rw [endedLines_cons, Lines.ofText_cons here, ih others]
    rfl

/-- Every text is made of lines and of what stands after them. -/
theorem exists_endedLines (text : List Char) : ∃ lines tail,
    text = endedLines lines tail ∧ (∀ line ∈ lines, '\n' ∉ line) ∧ '\n' ∉ tail := by
  induction text with
  | nil => exact ⟨[], [], rfl, by simp, by simp⟩
  | cons c text ih =>
    obtain ⟨lines, tail, rfl, whole, rest⟩ := ih
    by_cases ends : c = '\n'
    · subst ends
      exact ⟨[] :: lines, tail, by simp [endedLines], by simpa using whole, rest⟩
    · cases lines with
      | nil => exact ⟨[], c :: tail, rfl, by simp, by simp [rest, Ne.symm ends]⟩
      | cons line lines =>
        obtain ⟨here, others⟩ := List.forall_mem_cons.mp whole
        refine ⟨(c :: line) :: lines, tail, by simp [endedLines], ?_, rest⟩
        exact List.forall_mem_cons.mpr ⟨by simp [here, Ne.symm ends], others⟩

/-- Whether a line starts where a text ends. -/
def EndsLine (text : List Char) : Prop := text = [] ∨ text.getLast? = some '\n'

theorem endsLine_endedLines (lines : List (List Char)) : EndsLine (endedLines lines []) := by
  rcases lines.eq_nil_or_concat with rfl | ⟨start, line, rfl⟩
  · exact .inl rfl
  · exact .inr (by simp [endedLines, List.concat_eq_append])

theorem getLast?_endedLines (more : tail ≠ []) : (endedLines lines tail).getLast? = tail.getLast? := by
  obtain ⟨c, others, rfl⟩ := List.exists_cons_of_ne_nil more
  simp [endedLines, List.getLast?_append, List.getLast?_cons]

theorem EndsLine.exists_lines {text : List Char} (start : EndsLine text) :
    ∃ lines, text = endedLines lines [] ∧ ∀ line ∈ lines, '\n' ∉ line := by
  obtain ⟨lines, tail, rfl, whole, rest⟩ := exists_endedLines text
  by_cases more : tail = []
  · exact ⟨lines, by rw [more], whole⟩
  · rcases start with empty | ends
    · exact absurd (List.append_eq_nil_iff.mp empty).2 more
    · exact absurd (List.mem_of_getLast? ((getLast?_endedLines more).symm.trans ends)) rest

/-- What is read up to the start of a line and from there on. -/
theorem Lines.ofText_append {before : List Char} (start : EndsLine before) (after : List Char) :
    Lines.ofText (before ++ after) =
      ⟨(Lines.ofText before).texts ++ (Lines.ofText after).texts, none⟩ := by
  obtain ⟨lines, rfl, whole⟩ := start.exists_lines
  obtain ⟨lines', tail, rfl, whole', rest⟩ := exists_endedLines after
  have joined : endedLines lines [] ++ endedLines lines' tail = endedLines (lines ++ lines') tail := by
    simp [endedLines]
  have all : ∀ line ∈ lines ++ lines', '\n' ∉ line := by
    simpa [or_imp, forall_and] using And.intro whole whole'
  rw [joined, Lines.ofText_endedLines all rest, Lines.ofText_endedLines whole (by simp),
    Lines.ofText_endedLines whole' rest]
  simp [lastLine]

/-- With one more line feed, what stands after the lines is a line as well, although it be empty. -/
theorem Lines.ofText_endedLines_lineFeed (whole : ∀ line ∈ lines, '\n' ∉ line) (rest : '\n' ∉ tail) :
    Lines.ofText (endedLines lines tail ++ ['\n']) =
      ⟨lines.map (fun line => String.ofList (withoutReturn line)) ++
        [String.ofList (withoutReturn tail)], none⟩ := by
  have ended : endedLines lines tail ++ ['\n'] = endedLines (lines ++ [tail]) [] := by
    simp [endedLines]
  have all : ∀ line ∈ lines ++ [tail], '\n' ∉ line := by
    simpa [or_imp, forall_and] using And.intro whole rest
  rw [ended, Lines.ofText_endedLines all (by simp)]
  simp [lastLine]

/-- A text with a carriage return before each line feed. -/
def withReturns (text : List Char) : List Char :=
  text.flatMap fun c => if c = '\n' then ['\r', '\n'] else [c]

theorem withReturns_eq_self (single : '\n' ∉ line) : withReturns line = line := by
  induction line with
  | nil => rfl
  | cons c rest ih =>
    obtain ⟨here, others⟩ := not_or.mp (mt List.mem_cons.mpr single)
    have same := ih others
    unfold withReturns at same ⊢
    rw [List.flatMap_cons, if_neg (Ne.symm here), same]
    rfl

theorem withReturns_endedLines (whole : ∀ line ∈ lines, '\n' ∉ line) (rest : '\n' ∉ tail) :
    withReturns (endedLines lines tail) = endedLines (lines.map (· ++ ['\r'])) tail := by
  induction lines with
  | nil => exact withReturns_eq_self rest
  | cons line lines ih =>
    obtain ⟨here, others⟩ := List.forall_mem_cons.mp whole
    have apart : withReturns (line ++ '\n' :: endedLines lines tail) =
        withReturns line ++ '\r' :: '\n' :: withReturns (endedLines lines tail) := by
      simp [withReturns]
    rw [endedLines_cons, apart, withReturns_eq_self here, ih others, List.map_cons, endedLines_cons]
    simp

/-- The lines of a text without carriage returns are the same with one before each line feed. -/
theorem Lines.ofText_withReturns {text : List Char} (bare : '\r' ∉ text) :
    Lines.ofText (withReturns text) = Lines.ofText text := by
  obtain ⟨lines, tail, rfl, whole, rest⟩ := exists_endedLines text
  have whole' : ∀ line ∈ lines.map (· ++ ['\r']), '\n' ∉ line := by simpa using whole
  have plain : ∀ line ∈ lines, '\r' ∉ line := fun line member inside =>
    bare (by simpa [endedLines] using .inl ⟨line, member, inside⟩)
  have same : (lines.map (· ++ ['\r'])).map (fun line => String.ofList (withoutReturn line)) =
      lines.map fun line => String.ofList (withoutReturn line) := by
    rw [List.map_map]
    refine List.map_congr_left fun line member => ?_
    show String.ofList (withoutReturn (line ++ ['\r'])) = String.ofList (withoutReturn line)
    rw [withoutReturn_append_return, withoutReturn_eq_self (plain line member)]
  rw [withReturns_endedLines whole rest, Lines.ofText_endedLines whole' rest,
    Lines.ofText_endedLines whole rest, same]

end IndicatorFeeds.Feed

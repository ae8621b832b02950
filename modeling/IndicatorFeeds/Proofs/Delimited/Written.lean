import IndicatorFeeds.Proofs.Delimited.Quotes

namespace IndicatorFeeds.Delimited

/-- The characters of a field between its quotes: each quote of its own is written twice. -/
def doubled : List Char → List Char
  | [] => []
  | c :: rest => if c = '"' then '"' :: '"' :: doubled rest else c :: doubled rest

/-- A field, and the way it is written. -/
inductive Written (d : Delimiter) where
  /-- Between quotes. -/
  | quoted (text : String)
  /-- As it stands: without quotes, delimiters and line ends. -/
  | bare (text : String)
      (plain : ∀ c ∈ text.toList, c ≠ '"' ∧ c ≠ d.char ∧ isLineEnd c = false)

namespace Written

variable {d : Delimiter}

def text : Written d → String
  | quoted text => text
  | bare text _ => text

/-- The characters that stand for the field. -/
def chars : Written d → List Char
  | quoted text => '"' :: doubled text.toList ++ ['"']
  | bare text _ => text.toList

/-- The characters of a line of fields, with delimiters in between. -/
def joined (fields : List (Written d)) : List Char :=
  [d.char].intercalate (fields.map chars)

@[simp] theorem joined_singleton (field : Written d) : joined [field] = field.chars := by
  simp [joined, List.intercalate]

@[simp] theorem joined_cons_cons (field next : Written d) (rest : List (Written d)) :
    joined (field :: next :: rest) = field.chars ++ d.char :: joined (next :: rest) := by
  simp [joined, List.intercalate]

/-- A line of fields. -/
def line (fields : List (Written d)) : String := String.ofList (joined fields)

end Written

variable {d : Delimiter} {place : Place}

theorem scan_doubled (text field rest : List Char) :
    scan d .quoted field (doubled text ++ '"' :: rest) =
      scan d .afterQuote (text.reverse ++ field) rest := by
  induction text generalizing field with
  | nil => rw [doubled, List.nil_append, scan, move_quote, List.reverse_nil, List.nil_append]
  | cons c text ih =>
    rw [List.reverse_cons, List.append_assoc, List.singleton_append, ← ih]
    by_cases quote : c = '"'
    · subst quote
      simp only [doubled, if_true, List.cons_append, scan, move_quote]
    · simp only [doubled, quote, if_false, List.cons_append, scan, move_inside quote]

theorem scan_plain (outside : place ≠ .quoted) {text : List Char} (field rest : List Char)
    (plain : ∀ c ∈ text, c ≠ '"' ∧ c ≠ d.char ∧ isLineEnd c = false) :
    ∃ after, after ≠ .quoted ∧
      scan d place field (text ++ rest) = scan d after (text.reverse ++ field) rest := by
  induction text generalizing place field with
  | nil => exact ⟨place, outside, rfl⟩
  | cons c text ih =>
    obtain ⟨⟨noQuote, noDelimiter, noEnd⟩, others⟩ := List.forall_mem_cons.mp plain
    have kept : move d place c = .keep .bare := by
      rw [move_outside noQuote outside, plainMove, if_neg noDelimiter, noEnd]
      rfl
    have bare : Place.bare ≠ .quoted := by decide
    obtain ⟨after, closed, read⟩ := ih bare (c :: field) others
    refine ⟨after, closed, ?_⟩
    rw [List.cons_append, scan, kept]
    simpa using read

/-- A field is read as its text, however it is written, and the place after it is outside of quotes. -/
theorem scan_chars (field : Written d) (rest : List Char) : ∃ after, after ≠ .quoted ∧
    scan d .fieldStart [] (field.chars ++ rest) = scan d after field.text.toList.reverse rest := by
  cases field with
  | quoted text =>
    refine ⟨.afterQuote, by decide, ?_⟩
    have closed := scan_doubled (d := d) text.toList [] rest
    simpa [Written.chars, Written.text, scan, move_quote] using closed
  | bare text plain =>
    have start : Place.fieldStart ≠ .quoted := by decide
    obtain ⟨after, outside, read⟩ := scan_plain start [] rest plain
    rw [List.append_nil] at read
    exact ⟨after, outside, read⟩

theorem scan_delimiter (outside : place ≠ .quoted) (field rest : List Char) :
    (scan d place field (d.char :: rest)).1 = field.reverse :: (scan d .fieldStart [] rest).1 := by
  have ends : move d place d.char = .endField := by
    rw [move_outside d.usable.2.1 outside, plainMove, if_pos rfl]
  rw [scan, ends]

theorem scan_joined {fields : List (Written d)} (nonempty : fields ≠ []) :
    (scan d .fieldStart [] (Written.joined fields)).1 = fields.map fun field => field.text.toList := by
  induction fields with
  | nil => exact absurd rfl nonempty
  | cons field rest ih =>
    cases rest with
    | nil =>
      obtain ⟨after, -, read⟩ := scan_chars field []
      rw [List.append_nil] at read
      simp [read, scan]
    | cons next others =>
      obtain ⟨after, outside, read⟩ := scan_chars field (d.char :: Written.joined (next :: others))
      rw [Written.joined_cons_cons, read, scan_delimiter outside, ih (List.cons_ne_nil next others),
        List.reverse_reverse]
      rfl

theorem count_doubled (text : List Char) : (doubled text).count '"' = 2 * text.count '"' := by
  induction text with
  | nil => rfl
  | cons c text ih =>
    by_cases quote : c = '"'
    · subst quote
      simp only [doubled, if_true, List.count_cons_self, ih]
      omega
    · simp only [doubled, quote, if_false, List.count_cons_of_ne quote, ih]

theorem even_count_chars (field : Written d) : Even (field.chars.count '"') := by
  cases field with
  | quoted text =>
    refine ⟨text.toList.count '"' + 1, ?_⟩
    simp only [Written.chars, List.cons_append, List.count_cons_self, List.count_append,
      count_doubled, List.count_nil]
    omega
  | bare text plain =>
    have none : text.toList.count '"' = 0 :=
      List.count_eq_zero.mpr fun quote => (plain _ quote).1 rfl
    simp [Written.chars, none]

theorem even_count_joined (fields : List (Written d)) :
    Even ((Written.joined fields).count '"') := by
  induction fields with
  | nil => exact Even.zero
  | cons field rest ih =>
    cases rest with
    | nil => simpa using even_count_chars field
    | cons next others =>
      rw [Written.joined_cons_cons, List.count_append, List.count_cons_of_ne d.usable.2.1]
      exact (even_count_chars field).add ih

/-- A line starts with the quote or the first character of its first field, or, if this is empty, with a
delimiter. -/
theorem head_joined {fields : List (Written d)} {c : Char} (noReturn : d.char ≠ '\r')
    (head : (Written.joined fields).head? = some c) : isLineEnd c = false := by
  have start (field : Written d) (first : field.chars.head? = some c) : isLineEnd c = false := by
    cases field with
    | quoted text =>
      obtain rfl : '"' = c := Option.some.inj first
      rfl
    | bare text plain => exact (plain c (List.mem_of_head? first)).2.2
  match fields with
  | [] => exact absurd head nofun
  | [field] => exact start field (by simpa using head)
  | field :: next :: others =>
    rw [Written.joined_cons_cons, List.head?_append] at head
    cases first : field.chars.head? with
    | some => exact start field (first.trans (by simpa [first] using head))
    | none =>
      obtain rfl : d.char = c := by simpa [first] using head
      simp [isLineEnd, noReturn, d.usable.2.2]

theorem recordStart_joined {fields : List (Written d)} (noReturn : d.char ≠ '\r')
    (noMark : (Written.joined fields).head? ≠ some '\ufeff') :
    recordStart (Written.joined fields) = Written.joined fields := by
  cases joined : Written.joined fields with
  | nil => rfl
  | cons c rest =>
    rw [joined] at noMark
    have other : c ≠ '\ufeff' := fun mark => noMark (by rw [mark]; rfl)
    have start : isLineEnd c = false := head_joined noReturn (by rw [joined]; rfl)
    unfold recordStart
    split
    · rename_i same
      exact absurd (List.cons.inj same).1 other
    · exact List.dropWhile_cons_of_neg (by simp [start])

/-- Fields that have no blanks around them are read back as they have been written, each in its own way. -/
theorem parseLine_line {c : Char} (accepted : Delimiter.ofChar c = .ok d) (noReturn : c ≠ '\r')
    {fields : List (Written d)} (trimmed : ∀ field ∈ fields, Text.trim field.text = field.text)
    (nonempty : Written.line fields ≠ "")
    (noMark : (Written.line fields).toList.head? ≠ some '\ufeff') :
    parseLine d (Written.line fields) = .ok (fields.map Written.text) := by
  obtain rfl := Delimiter.char_of_ofChar accepted
  rw [Written.line, String.toList_ofList] at noMark
  have someFields : fields ≠ [] := fun none => nonempty (by rw [none]; rfl)
  have someChars : Written.joined fields ≠ [] := fun none =>
    nonempty (by rw [Written.line, none])
  have paired : hasOddQuotes (Written.joined fields) = false := by
    have even := Nat.even_iff.mp (even_count_joined fields)
    simp [hasOddQuotes, even]
  have read : rawFields d (Written.joined fields) = fields.map fun field => field.text.toList := by
    rw [← scan_joined someFields, rawFields, recordStart_joined noReturn noMark]
    split
    · exact absurd ‹_› someChars
    · rfl
  unfold parseLine
  rw [Written.line, String.toList_ofList, paired, read, List.map_map]
  refine congrArg Except.ok (List.map_congr_left fun field member => ?_)
  exact trimmed field member

/-- Semicolons between the fields. -/
private def semicolon : Delimiter := ⟨';', by decide⟩

/-- Fields with quotes, a delimiter and a line end, and an empty one. -/
private def mixed : List (Written semicolon) :=
  [.quoted "say \"hi\"; bye", .bare "" (by simp), .quoted "two\nlines",
    .bare "#c2" (by simp [semicolon, isLineEnd])]

example : Written.line mixed = "\"say \"\"hi\"\"; bye\";;\"two\nlines\";#c2" := by decide

theorem parseLine_line_mixed : Delimiter.ofChar ';' = .ok semicolon ∧ ';' ≠ '\r' ∧
    (∀ field ∈ mixed, Text.trim field.text = field.text) ∧ Written.line mixed ≠ "" ∧
    (Written.line mixed).toList.head? ≠ some '\ufeff' ∧
    parseLine semicolon (Written.line mixed) = .ok ["say \"hi\"; bye", "", "two\nlines", "#c2"] := by
  have accepted : Delimiter.ofChar ';' = .ok semicolon := rfl
  have trimmed : ∀ field ∈ mixed, Text.trim field.text = field.text := by decide
  have nonempty : Written.line mixed ≠ "" := by decide
  have noMark : (Written.line mixed).toList.head? ≠ some '\ufeff' := by decide
  exact ⟨accepted, by decide, trimmed, nonempty, noMark,
    parseLine_line accepted (by decide) trimmed nonempty noMark⟩

end IndicatorFeeds.Delimited

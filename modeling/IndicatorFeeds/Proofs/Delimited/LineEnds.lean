import IndicatorFeeds.Proofs.Delimited.Quotes

namespace IndicatorFeeds.Delimited

variable {d : Delimiter} {place : Place}

theorem move_return (noReturn : d.char ≠ '\r') (outside : place ≠ .quoted) :
    move d place '\r' = .endRecord := by
  rw [move_outside (by decide) outside, plainMove, if_neg (Ne.symm noReturn), if_pos (by decide)]

/-- A carriage return after a record leaves its fields, if these are trimmed. -/
theorem scan_append_return (noReturn : d.char ≠ '\r') (place : Place) (field rest : List Char) :
    (scan d place field (rest ++ ['\r'])).1.map Text.trimChars =
      (scan d place field rest).1.map Text.trimChars := by
  induction rest generalizing place field with
  | nil =>
    by_cases inside : place = .quoted
    · have kept : move d .quoted '\r' = .keep .quoted := move_inside (by decide)
      have trimmed := Text.trimChars_append_blank (c := '\r') (by decide) field.reverse
      simp [inside, scan, kept, trimmed]
    · simp [scan, move_return noReturn inside]
  | cons c rest ih =>
    rw [List.cons_append, scan, scan]
    cases move d place c with
    | keep next => exact ih next (c :: field)
    | skip next => exact ih next field
    | endField => simpa using ih .fieldStart []
    | endRecord => rfl

theorem recordStart_append_return (line : List Char) :
    recordStart (line ++ ['\r']) =
      if recordStart line = [] then [] else recordStart line ++ ['\r'] := by
  have skips (cs : List Char) : (cs ++ ['\r']).dropWhile isLineEnd =
      if cs.dropWhile isLineEnd = [] then [] else cs.dropWhile isLineEnd ++ ['\r'] := by
    have nothing : ['\r'].dropWhile isLineEnd = [] := by decide
    rw [List.dropWhile_append, nothing]
    simp only [List.isEmpty_iff]
  cases line with
  | nil => decide
  | cons c rest =>
    by_cases mark : c = '\ufeff'
    · subst mark
      exact skips rest
    · have whole (cs : List Char) : recordStart (c :: cs) = (c :: cs).dropWhile isLineEnd := by
        unfold recordStart
        split
        · exact absurd (List.cons.inj ‹_›).1 mark
        · rfl
      rw [List.cons_append, whole, whole]
      exact skips (c :: rest)

theorem rawFields_append_return (noReturn : d.char ≠ '\r') (line : List Char) :
    (rawFields d (line ++ ['\r'])).map Text.trimChars = (rawFields d line).map Text.trimChars := by
  unfold rawFields
  rw [recordStart_append_return]
  cases recordStart line with
  | nil => rfl
  | cons c rest =>
    rw [if_neg (List.cons_ne_nil c rest)]
    exact scan_append_return noReturn .fieldStart [] (c :: rest)

/-- A line is read as the same fields with a carriage return at its end, or refused with and without
it. -/
theorem parseLine_append_return (noReturn : d.char ≠ '\r') (line : List Char) :
    (∃ fields, parseLine d (String.ofList (line ++ ['\r'])) = .ok fields ∧
        parseLine d (String.ofList line) = .ok fields) ∨
      ∃ words words', parseLine d (String.ofList (line ++ ['\r'])) = .error (.parse words) ∧
        parseLine d (String.ofList line) = .error (.parse words') := by
  have quotes : hasOddQuotes (line ++ ['\r']) = hasOddQuotes line := by
    simp [hasOddQuotes]
  have fields := congrArg (List.map String.ofList) (rawFields_append_return noReturn line)
  rw [List.map_map, List.map_map] at fields
  unfold parseLine
  rw [String.toList_ofList, String.toList_ofList, quotes]
  split
  · exact .inr ⟨_, _, rfl, rfl⟩
  · exact .inl ⟨_, congrArg Except.ok fields, rfl⟩

end IndicatorFeeds.Delimited

namespace IndicatorFeeds.Text

def splitWhen (isSeparator : Char → Bool) (cs : List Char) : List (List Char) :=
  cs.foldr
    (fun c parts =>
      if isSeparator c then [] :: parts
      else match parts with
        | part :: rest => (c :: part) :: rest
        | [] => [[c]])
    [[]]

theorem splitWhen_cons_of_pos {isSeparator : Char → Bool} {c : Char} (cs : List Char)
    (separates : isSeparator c = true) :
    splitWhen isSeparator (c :: cs) = [] :: splitWhen isSeparator cs := by
  simp [splitWhen, separates]

section

variable {isSeparator : Char → Bool} {part : List Char}

theorem splitWhen_append_cons {c : Char} (cs : List Char)
    (whole : ∀ c ∈ part, isSeparator c = false) (separates : isSeparator c = true) :
    splitWhen isSeparator (part ++ c :: cs) = part :: splitWhen isSeparator cs := by
  induction part with
  | nil => exact splitWhen_cons_of_pos cs separates
  | cons d rest ih =>
    have ⟨first, others⟩ := List.forall_mem_cons.1 whole
    have parts := ih others
    unfold splitWhen at parts ⊢
    rw [List.cons_append, List.foldr_cons, parts, first]
    rfl

end

end IndicatorFeeds.Text

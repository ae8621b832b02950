import IndicatorFeeds.Json.Decode

namespace IndicatorFeeds.Json

variable {name key : String} {value : Value} {fields : List (String × Value)}

theorem find?_insertField (key name : String) (value : Value) (fields : List (String × Value)) :
    (insertField key value fields).find? (·.1 = name) =
      if key = name then some (key, value) else fields.find? (·.1 = name) := by
  induction fields with
  | nil => by_cases same : key = name <;> simp [insertField, same]
  | cons head rest ih =>
    obtain ⟨k, v⟩ := head
    unfold insertField
    split
    · by_cases same : key = name <;> simp [same]
    · split
      · rename_i same
        subst same
        by_cases hit : key = name <;> simp [hit]
      · rename_i different
        by_cases hit : k = name
        · subst hit
          simp [different]
        · simp only [List.find?_cons, hit, decide_false, ih]

theorem mem_insertField {field : String × Value}
    (member : field ∈ insertField key value fields) : field = (key, value) ∨ field ∈ fields := by
  induction fields with
  | nil => simp_all [insertField]
  | cons head rest ih =>
    unfold insertField at member
    split at member
    · rcases List.mem_cons.mp member with rfl | old
      · exact .inl rfl
      · exact .inr old
    · split at member
      · rcases List.mem_cons.mp member with rfl | old
        · exact .inl rfl
        · exact .inr (List.mem_cons_of_mem _ old)
      · rcases List.mem_cons.mp member with rfl | new
        · exact .inr List.mem_cons_self
        · exact (ih new).imp_right (List.mem_cons_of_mem _)

/-- Fields in ascending order of their keys, each key once. -/
def Ascending (fields : List (String × Value)) : Prop := fields.Pairwise fun a b => a.1 < b.1

theorem ascending_insertField (ascending : Ascending fields) (key : String) (value : Value) :
    Ascending (insertField key value fields) := by
  induction fields with
  | nil => exact List.pairwise_singleton _ _
  | cons head rest ih =>
    have ⟨below, tail⟩ := List.pairwise_cons.mp ascending
    unfold insertField
    split
    · rename_i less
      refine List.pairwise_cons.mpr ⟨fun field member => ?_, ascending⟩
      rcases List.mem_cons.mp member with rfl | member
      · exact less
      · exact String.lt_trans less (below field member)
    · split
      · rename_i same
        exact List.pairwise_cons.mpr ⟨fun field member => same ▸ below field member, tail⟩
      · rename_i notLess different
        refine List.pairwise_cons.mpr ⟨fun field member => ?_, ih tail⟩
        rcases mem_insertField member with rfl | old
        · have le := String.not_lt.mp notLess
          exact Decidable.byContradiction fun notGreater =>
            different (String.le_antisymm (String.not_lt.mp notGreater) le)
        · exact below field old

private theorem occursOnce (name : String) (ascending : Ascending fields) :
    (fields.filter (·.1 = name)).length ≤ 1 := by
  induction fields with
  | nil => exact Nat.zero_le _
  | cons head rest ih =>
    have ⟨below, tail⟩ := List.pairwise_cons.mp ascending
    by_cases hit : head.1 = name
    · have none : rest.filter (·.1 = name) = [] := by
        refine List.filter_eq_nil_iff.mpr fun field member same => ?_
        have less := below field member
        rw [hit, of_decide_eq_true same] at less
        exact String.lt_irrefl _ less
      simp [hit, none]
    · simpa [hit] using ih tail

theorem ascending_insertFields (start : Ascending done) (fields : List (String × Value)) :
    Ascending (fields.foldl (fun done (k, v) => insertField k v done) done) := by
  induction fields generalizing done with
  | nil => exact start
  | cons head rest ih => exact ih (ascending_insertField start _ _)

theorem mem_insertFields {done fields : List (String × Value)} {field : String × Value}
    (member : field ∈ fields.foldl (fun done (k, v) => insertField k v done) done) :
    field ∈ done ∨ field ∈ fields := by
  induction fields generalizing done with
  | nil => exact .inl member
  | cons head rest ih =>
    rcases ih member with earlier | later
    · rcases mem_insertField earlier with rfl | old
      · exact .inr List.mem_cons_self
      · exact .inl old
    · exact .inr (List.mem_cons_of_mem _ later)

private theorem insertField_of_last (last : ∀ field ∈ fields, field.1 < key) (value : Value) :
    insertField key value fields = fields ++ [(key, value)] := by
  induction fields with
  | nil => rfl
  | cons head rest ih =>
    have ⟨before, others⟩ := List.forall_mem_cons.mp last
    have notSame : key ≠ head.1 := fun same => String.lt_irrefl _ (same ▸ before)
    rw [insertField, if_neg (String.lt_asymm before), if_neg notSame, ih others, List.cons_append]

theorem Value.ofFields_of_ascending (ascending : Ascending fields) :
    Value.ofFields fields = .object fields := by
  have kept (done more : List (String × Value)) (ascending : Ascending (done ++ more)) :
      more.foldl (fun done (k, v) => insertField k v done) done = done ++ more := by
    induction more generalizing done with
    | nil => exact (List.append_nil _).symm
    | cons head rest ih =>
      obtain ⟨key, value⟩ := head
      have last : ∀ field ∈ done, field.1 < key := fun field member =>
        (List.pairwise_append.mp ascending).2.2 field member _ List.mem_cons_self
      rw [List.append_cons] at ascending ⊢
      simp only [List.foldl_cons, insertField_of_last last, ih _ ascending]
  exact congrArg Value.object (kept [] fields ascending)

private theorem find?_ofFields (name : String) (done fields : List (String × Value)) :
    (fields.foldl (fun done (k, v) => insertField k v done) done).find? (·.1 = name) =
      (fields.reverse.find? (·.1 = name)).or (done.find? (·.1 = name)) := by
  induction fields generalizing done with
  | nil => rfl
  | cons head rest ih =>
    rw [List.foldl_cons, ih, find?_insertField, List.reverse_cons, List.find?_append, Option.or_assoc]
    congr 1
    obtain ⟨key, value⟩ := head
    by_cases hit : key = name <;> simp [hit]

private theorem ofFields_eq_map (fields : List (String × Value)) :
    Tree.ofFields fields = fields.map fun field => (some field.1, .ofValue field.2) := by
  induction fields with
  | nil => rfl
  | cons head rest ih => exact congrArg _ ih

/-- The fields of a record that has been written as an object: of two of one name the later. -/
theorem Tree.fields_ofFields (names : List String) (fields : List (String × Value)) :
    Tree.fields names (.ofValue (.ofFields fields)) = some ⟨false, fun name =>
      (fields.reverse.find? (·.1 = name)).map fun field => .ofValue field.2⟩ := by
  have sound := ascending_insertFields List.Pairwise.nil fields
  have once (name : String) := occursOnce name sound
  simp only [Value.ofFields, Tree.ofValue, ofFields_eq_map, Tree.fields]
  rw [if_neg]
  · congr 2
    funext name
    have found := find?_ofFields name [] fields
    simp only [List.find?_nil, Option.or_none] at found
    rw [← found, List.find?_map, Option.map_map]
    simp [Function.comp_def]
  · simp only [Bool.or_eq_true, List.any_eq_true, not_or, not_exists, not_and]
    refine ⟨fun field member missing => ?_, fun name _ => ?_⟩
    · obtain ⟨_, _, rfl⟩ := List.mem_map.mp member
      cases missing
    · have := once name
      simp only [Tree.occursTwice, List.filter_map, List.length_map, Function.comp_def]
      simpa using this

namespace Tree

@[simp] theorem text_string (s : String) : text (.ofValue (.string s)) = some s := rfl

@[simp] theorem boolean_bool (b : Bool) : boolean (.ofValue (.bool b)) = some b := rfl

@[simp] theorem natural_nat (n : Nat) : natural (.ofValue (.nat n)) = some n := by
  simp [natural, Value.nat, ofValue]

@[simp] theorem natural32_nat (n : UInt32) :
    natural32 (.ofValue (.nat n.toNat)) = some n.toNat := by
  simp [natural32, n.toNat_lt]

@[simp] theorem texts_strings (items : List String) :
    texts (.ofValue (.strings items)) = some items := by
  simp only [Value.strings, ofValue, texts, listOf]
  induction items with
  | nil => rfl
  | cons item rest ih => simp [ofItems, ofValue, text, ih]

/-- What may be `null` is read back if what is there never is. -/
theorem nullable_ofOption {encode : α → Value} {decode : Tree → Option α}
    (read : ∀ a, decode (.ofValue (encode a)) = some a) (there : ∀ a, encode a ≠ .null)
    (value : Option α) : nullable decode (.ofValue (.ofOption encode value)) = some value := by
  cases value with
  | none => rfl
  | some a =>
    have notNull := there a
    have readBack := read a
    cases written : encode a <;> simp_all [Value.ofOption, nullable, ofValue]

end Tree

end IndicatorFeeds.Json

/-!
Tables from texts to values, in the order of their keys. A table is known by what `find?` says:
`find?_insert` and `find?_erase` say what the two changes do to it, and its entries are the keys
that have a value (`mem_entries_iff`).
-/

namespace IndicatorFeeds.Store

/-- Entries in ascending order of their keys, each key once. -/
structure Table (α : Type) where
  entries : List (String × α)
  ascending : entries.Pairwise fun a b => a.1 < b.1

namespace Table

variable {α : Type}

def empty : Table α := ⟨[], .nil⟩

instance : Inhabited (Table α) := ⟨empty⟩

def find? (t : Table α) (key : String) : Option α :=
  (t.entries.find? fun entry => entry.1 = key).map (·.2)

/-- Whether a key has a value. -/
def contains (t : Table α) (key : String) : Bool := (t.find? key).isSome

/-- How many keys have one. -/
def size (t : Table α) : Nat := t.entries.length

private def insertEntry (key : String) (value : α) : List (String × α) → List (String × α)
  | [] => [(key, value)]
  | entry :: rest =>
    if key < entry.1 then (key, value) :: entry :: rest
    else if key = entry.1 then (key, value) :: rest
    else entry :: insertEntry key value rest

private theorem key_of_mem_insertEntry {key : String} {value : α} {entries : List (String × α)}
    {entry : String × α} (member : entry ∈ insertEntry key value entries) :
    entry.1 = key ∨ entry ∈ entries := by
  induction entries with
  | nil => simp [insertEntry] at member; simp [member]
  | cons head rest ih =>
    unfold insertEntry at member
    split at member
    · rcases List.mem_cons.1 member with rfl | old
      · exact .inl rfl
      · exact .inr old
    · split at member
      · rcases List.mem_cons.1 member with rfl | old
        · exact .inl rfl
        · exact .inr (List.mem_cons_of_mem _ old)
      · rcases List.mem_cons.1 member with rfl | new
        · exact .inr List.mem_cons_self
        · exact (ih new).imp_right (List.mem_cons_of_mem _)

private theorem lt_of_not_lt_of_ne {a b : String} (notLess : ¬a < b) (different : a ≠ b) :
    b < a :=
  Decidable.byContradiction fun notGreater =>
    different (String.le_antisymm (String.not_lt.1 notGreater) (String.not_lt.1 notLess))

private theorem ascending_insertEntry (key : String) (value : α) {entries : List (String × α)}
    (ascending : entries.Pairwise fun a b => a.1 < b.1) :
    (insertEntry key value entries).Pairwise fun a b => a.1 < b.1 := by
  induction entries with
  | nil => simp [insertEntry]
  | cons head rest ih =>
    have ⟨below, tail⟩ := List.pairwise_cons.1 ascending
    unfold insertEntry
    split
    · rename_i less
      refine List.pairwise_cons.2 ⟨fun entry member => ?_, ascending⟩
      rcases List.mem_cons.1 member with rfl | member
      · exact less
      · exact String.lt_trans less (below entry member)
    · split
      · rename_i same
        exact List.pairwise_cons.2 ⟨fun entry member => same ▸ below entry member, tail⟩
      · rename_i notLess different
        refine List.pairwise_cons.2 ⟨fun entry member => ?_, ih tail⟩
        rcases key_of_mem_insertEntry member with same | old
        · exact same ▸ lt_of_not_lt_of_ne notLess different
        · exact below entry old

/-- The table with a value for a key; the one it had is replaced. -/
def insert (t : Table α) (key : String) (value : α) : Table α :=
  ⟨insertEntry key value t.entries, ascending_insertEntry key value t.ascending⟩

def erase (t : Table α) (key : String) : Table α :=
  ⟨t.entries.filter (·.1 ≠ key), t.ascending.filter _⟩

@[simp] theorem find?_empty (key : String) : (empty : Table α).find? key = none := rfl

private theorem find?_insertEntry (key other : String) (value : α) (entries : List (String × α)) :
    (insertEntry key value entries).find? (fun entry => entry.1 = other) =
      if key = other then some (key, value) else entries.find? fun entry => entry.1 = other := by
  induction entries with
  | nil => by_cases same : key = other <;> simp [insertEntry, same]
  | cons head rest ih =>
    unfold insertEntry
    split
    · by_cases same : key = other <;> simp [same]
    · split
      · rename_i same
        by_cases hit : key = other
        · simp [hit]
        · have : ¬head.1 = other := same ▸ hit
          simp [hit, this]
      · rename_i different
        by_cases hit : key = other
        · subst hit
          have : ¬head.1 = key := fun same => different same.symm
          simp [this, ih]
        · simp only [List.find?_cons, ih, hit, if_false]

private theorem insertEntry_perm {key : String} {value : α} {entries : List (String × α)}
    (fresh : ∀ entry ∈ entries, entry.1 ≠ key) :
    (insertEntry key value entries).Perm ((key, value) :: entries) := by
  induction entries with
  | nil => exact .refl _
  | cons head rest ih =>
    have ⟨first, others⟩ := List.forall_mem_cons.1 fresh
    unfold insertEntry
    split
    · exact .refl _
    · rw [if_neg fun same => first same.symm]
      exact ((ih others).cons head).trans (.swap _ _ _)

theorem entries_insert_perm {t : Table α} {key : String} (value : α)
    (fresh : t.find? key = none) : (t.insert key value).entries.Perm ((key, value) :: t.entries) :=
  insertEntry_perm fun entry member same => by
    have found : t.entries.find? (fun entry => entry.1 = key) = none := by
      simpa [find?] using fresh
    exact List.find?_eq_none.1 found entry member (by simp [same])

theorem find?_insert (t : Table α) (key other : String) (value : α) :
    (t.insert key value).find? other = if key = other then some value else t.find? other := by
  simp only [find?, insert, find?_insertEntry]
  split <;> rfl

@[simp] theorem find?_insert_self (t : Table α) (key : String) (value : α) :
    (t.insert key value).find? key = some value := by simp [find?_insert]

theorem find?_erase (t : Table α) (key other : String) :
    (t.erase key).find? other = if key = other then none else t.find? other := by
  simp only [find?, erase, List.find?_filter]
  by_cases same : key = other
  · subst same
    simp
  · simp only [same, if_false]
    congr 2
    funext entry
    by_cases hit : entry.1 = other
    · have : ¬other = key := fun back => same back.symm
      simp [hit, this]
    · simp [hit]

@[simp] theorem find?_erase_self (t : Table α) (key : String) :
    (t.erase key).find? key = none := by simp [find?_erase]

theorem mem_entries_iff (t : Table α) (key : String) (value : α) :
    (key, value) ∈ t.entries ↔ t.find? key = some value := by
  obtain ⟨entries, ascending⟩ := t
  simp only [find?]
  induction entries with
  | nil => simp
  | cons head rest ih =>
    have ⟨below, tail⟩ := List.pairwise_cons.1 ascending
    by_cases same : head.1 = key
    · simp only [List.mem_cons, List.find?_cons, same, decide_true, Option.map_some,
        Option.some.injEq]
      constructor
      · rintro (rfl | member)
        · rfl
        · have less : head.1 < key := below (key, value) member
          exact absurd (same ▸ less) (String.lt_irrefl key)
      · rintro rfl
        exact .inl (by rw [← same])
    · simp only [List.mem_cons, List.find?_cons, same, decide_false]
      rw [← ih tail]
      constructor
      · rintro (rfl | member)
        · exact absurd rfl same
        · exact member
      · exact .inr

end Table

end IndicatorFeeds.Store

import IndicatorFeeds.Proofs.Store.Memory

namespace IndicatorFeeds.Store

namespace Memory

private def hexDigit (c : Char) : Nat :=
  if c.isDigit then c.toNat - 0x30 else c.toNat - 0x57

private def hexValue (digits : List Char) : Nat :=
  digits.foldl (fun n c => n * 16 + hexDigit c) 0

private theorem hexDigit_digitChar {n : Nat} (digit : n < 16) : hexDigit n.digitChar = n := by
  have all : ∀ n : Fin 16, hexDigit (Nat.digitChar n) = n := by decide
  exact all ⟨n, digit⟩

private theorem hexValue_append_singleton (digits : List Char) (c : Char) :
    hexValue (digits ++ [c]) = hexValue digits * 16 + hexDigit c := by
  simp [hexValue]

private theorem hexValue_toDigits (n : Nat) : hexValue (Nat.toDigits 16 n) = n := by
  induction n using Nat.strongRecOn with
  | ind n ih =>
    by_cases small : n < 16
    · rw [Nat.toDigits_of_lt_base small]
      simp [hexValue, hexDigit_digitChar small]
    · rw [Nat.toDigits_of_base_le (by decide) (Nat.not_lt.mp small), hexValue_append_singleton,
        ih _ (by omega), hexDigit_digitChar (Nat.mod_lt n (by decide))]
      omega

private theorem hexValue_zeros (count : Nat) (digits : List Char) :
    hexValue (List.replicate count '0' ++ digits) = hexValue digits := by
  induction count with
  | zero => rfl
  | succ count ih => simpa [hexValue, List.replicate_succ, hexDigit] using ih

private theorem hexValue_hexPadded (width n : Nat) : hexValue (hexPadded width n).toList = n := by
  simp [hexPadded, hexValue_zeros, hexValue_toDigits]

private theorem length_hexPadded (width n : Nat) : width ≤ (hexPadded width n).toList.length := by
  simp [hexPadded]
  omega

private theorem drop_assignedId (n : Nat) :
    (assignedId n).toList.drop 24 = (hexPadded 12 n).toList := by
  have long := length_hexPadded 20 n
  have cut : (24 : Nat) = ("00000000-".toList ++ ((hexPadded 20 n).toList.drop 0).take 4 ++
      "-7".toList ++ ((hexPadded 20 n).toList.drop 4).take 3 ++ "-8".toList ++
      ((hexPadded 20 n).toList.drop 7).take 3 ++ "-".toList).length := by
    simp only [List.length_append, List.length_take, List.length_drop]
    have texts : "00000000-".toList.length = 9 ∧ "-7".toList.length = 2 ∧ "-8".toList.length = 2 ∧
      "-".toList.length = 1 := by decide
    omega
  simp only [assignedId, String.toList_append, String.toList_ofList]
  rw [cut, List.drop_left]

theorem assignedId_injective : Function.Injective assignedId := by
  intro m n same
  have digits : (hexPadded 12 m).toList = (hexPadded 12 n).toList := by
    rw [← drop_assignedId, ← drop_assignedId, same]
  rw [← hexValue_hexPadded 12 m, digits, hexValue_hexPadded]

end Memory

/-- What is stored in an index. -/
def MemoryIndex.sources (i : MemoryIndex) : List Json.Value :=
  i.documents.entries.map fun entry => entry.2.source

/-- The ids of an index have been assigned with sequence numbers up to this one. -/
def MemoryIndex.Assigned (i : MemoryIndex) (seqNo : Nat) : Prop :=
  ∀ id stored, i.documents.find? id = some stored → ∃ n ≤ seqNo, id = Memory.assignedId n

theorem MemoryIndex.Assigned.le {i : MemoryIndex} {seqNo later : Nat} (assigned : i.Assigned seqNo)
    (le : seqNo ≤ later) : i.Assigned later := fun id stored there =>
  let ⟨n, upTo, same⟩ := assigned id stored there
  ⟨n, Nat.le_trans upTo le, same⟩

namespace Memory

variable {m : Memory} {index : String} {i : MemoryIndex}

private theorem write_assigned (found : m.indices.find? index = some i)
    (assigned : i.Assigned m.lastSeqNo) (source : Json.Value) :
    ∃ i', (m.write index (assignedId (m.lastSeqNo + 1)) source).indices.find? index = some i' ∧
      i'.writeBlocked = i.writeBlocked ∧ i'.sources.Perm (i.sources ++ [source]) ∧
      i'.Assigned (m.lastSeqNo + 1) := by
  have fresh : i.documents.find? (assignedId (m.lastSeqNo + 1)) = none := by
    cases there : i.documents.find? (assignedId (m.lastSeqNo + 1)) with
    | none => rfl
    | some stored =>
      obtain ⟨n, upTo, same⟩ := assigned _ stored there
      exact absurd (assignedId_injective same ▸ upTo) (Nat.not_succ_le_self _)
  let documents := i.documents.insert (assignedId (m.lastSeqNo + 1))
    ⟨version (m.lastSeqNo + 1), source⟩
  refine ⟨{ i with documents }, by simp [write, found, documents], rfl, ?_, fun id stored there => ?_⟩
  · have entries := Table.entries_insert_perm (⟨version (m.lastSeqNo + 1), source⟩ : StoredDocument)
      fresh
    exact (entries.map fun entry => entry.2.source).trans (List.perm_append_singleton _ _).symm
  · rw [Table.find?_insert] at there
    split at there
    · rename_i same
      exact ⟨_, Nat.le_refl _, same.symm⟩
    · obtain ⟨n, upTo, same⟩ := assigned id stored there
      exact ⟨n, Nat.le_succ_of_le upTo, same⟩

/-- A bulk of documents without ids adds just these to an index of assigned ids. -/
theorem foldl_writeItem_sources (found : m.indices.find? index = some i)
    (assigned : i.Assigned m.lastSeqNo) {items : List BulkItem}
    (anonymous : ∀ item ∈ items, item.id = none) :
    ∃ i', (items.foldl (writeItem index) m).indices.find? index = some i' ∧
      i'.writeBlocked = i.writeBlocked ∧ i'.sources.Perm (i.sources ++ items.map (·.source)) ∧
      i'.Assigned (items.foldl (writeItem index) m).lastSeqNo := by
  induction items generalizing m i with
  | nil => exact ⟨i, found, rfl, by simp, assigned⟩
  | cons item rest ih =>
    have ⟨first, others⟩ := List.forall_mem_cons.mp anonymous
    obtain ⟨i', found', blocked', sources', assigned'⟩ := write_assigned found assigned item.source
    have writes : writeItem index m item =
        m.write index (assignedId (m.lastSeqNo + 1)) item.source := by
      simp [writeItem, first]
    rw [List.foldl_cons, writes]
    obtain ⟨i'', found'', blocked'', sources'', assigned''⟩ := ih found' assigned' others
    refine ⟨i'', found'', blocked''.trans blocked', sources''.trans ?_, assigned''⟩
    rw [List.map_cons, ← List.singleton_append, ← List.append_assoc]
    exact sources'.append_right _

end Memory

end IndicatorFeeds.Store

import IndicatorFeeds.Store.Memory
import IndicatorFeeds.Store.Trace

namespace IndicatorFeeds.Store

/-- A call that only looks. -/
def Call.isRead : Call → Bool
  | indexExists _ | refreshIndex _ | forceMerge .. | shardStates _ | getDocument .. | searchAll _ =>
    true
  | _ => false

namespace Memory

variable {m m' : Memory} {index other id id' : String} {source : Json.Value}

/-- What a call about an index can make of a store: nothing, one document after another written to
it, or another index in its place without documents that it did not have. -/
inductive Change (m : Memory) (index : String) : Memory → Prop where
  | nothing : Change m index m
  | removed : Change m index { m with indices := m.indices.erase index }
  | replaced (next : MemoryIndex) (old : ∀ id stored, next.documents.find? id = some stored →
      m.document? index id = some stored) :
      Change m index { m with indices := m.indices.insert index next }
  | written (items : List BulkItem) : Change m index (items.foldl (writeItem index) m)

theorem createIndex_eq_ok_iff :
    m.createIndex index spec = .ok m' ↔
      index ∉ m.faults.failingCreation ∧ m.indices.find? index = none ∧
        m' = { m with indices :=
          m.indices.insert index (freshIndex spec.autoExpandReplicas.isSome) } := by
  unfold createIndex
  by_cases failing : index ∈ m.faults.failingCreation
  · simp [failing]
  · cases found : m.indices.find? index <;> simp [failing, Table.contains, found, eq_comm]

theorem createIndex_eq_error_iff :
    m.createIndex index spec = .error e ↔
      index ∈ m.faults.failingCreation ∧ e = .backend s!"injected create failure for {index}" ∨
        index ∉ m.faults.failingCreation ∧ m.indices.find? index ≠ none ∧
          e = .alreadyExists index := by
  unfold createIndex
  by_cases failing : index ∈ m.faults.failingCreation
  · simp [failing, eq_comm]
  · cases found : m.indices.find? index <;> simp [failing, Table.contains, found, eq_comm]

theorem deleteIndex_eq_ok_iff :
    m.deleteIndex index = .ok m' ↔
      index ∉ m.faults.failingDeletion ∧ m.indices.find? index ≠ none ∧
        m' = { m with indices := m.indices.erase index } := by
  unfold deleteIndex
  by_cases failing : index ∈ m.faults.failingDeletion
  · simp [failing]
  · cases found : m.indices.find? index <;> simp [failing, Table.contains, found, eq_comm]

theorem deleteIndex_eq_error_iff :
    m.deleteIndex index = .error e ↔
      index ∈ m.faults.failingDeletion ∧ e = .backend s!"injected delete failure for {index}" ∨
        index ∉ m.faults.failingDeletion ∧ m.indices.find? index = none ∧
          e = .indexNotFound index := by
  unfold deleteIndex
  by_cases failing : index ∈ m.faults.failingDeletion
  · simp [failing, eq_comm]
  · cases found : m.indices.find? index <;> simp [failing, Table.contains, found, eq_comm]

theorem updateSettings_eq_ok_iff :
    m.updateSettings index update = .ok m' ↔
      ∃ found, m.indices.find? index = some found ∧
        m' = { m with indices := m.indices.insert index { found with
          writeBlocked := update.writeBlocked.getD found.writeBlocked
          replicasExpanded := update.autoExpandReplicas.isSome || found.replicasExpanded } } := by
  unfold updateSettings requireIndex
  cases m.indices.find? index <;> simp [bind, Except.bind, pure, Except.pure, eq_comm]

theorem bulkIndex_eq_ok_iff :
    m.bulkIndex index items = .ok m' ↔
      index ∉ m.faults.failingBulkWrites ∧
        (∃ found, m.indices.find? index = some found ∧ found.writeBlocked = false) ∧
        m' = items.foldl (writeItem index) m := by
  unfold bulkIndex requireIndex
  by_cases failing : index ∈ m.faults.failingBulkWrites
  · simp [failing, bind, Except.bind, throw, throwThe, MonadExceptOf.throw]
  · cases m.indices.find? index with
    | none => simp [failing, bind, Except.bind]
    | some found =>
      by_cases closed : found.writeBlocked
      · simp [failing, closed, bind, Except.bind, throw, throwThe, MonadExceptOf.throw]
      · simp [failing, closed, bind, Except.bind, pure, Except.pure]
        exact ⟨Eq.symm, Eq.symm⟩

theorem bulkIndex_eq_error (refused : m.bulkIndex index items = .error e) :
    index ∈ m.faults.failingBulkWrites ∨ m.indices.find? index = none ∨
      m.isBlocked index = true := by
  by_cases failing : index ∈ m.faults.failingBulkWrites
  · exact .inl failing
  cases found : m.indices.find? index with
  | none => exact .inr (.inl rfl)
  | some i =>
    cases blocked : i.writeBlocked with
    | true => exact .inr (.inr (by simp [isBlocked, found, blocked]))
    | false =>
      have written : m.bulkIndex index items = .ok (items.foldl (writeItem index) m) :=
        bulkIndex_eq_ok_iff.mpr ⟨failing, ⟨i, found, blocked⟩, rfl⟩
      cases refused.symm.trans written

theorem putDocument_eq_ok_iff :
    m.putDocument index id source condition = .ok (v, m') ↔
      refusal? index id ((m.document? index id).map (·.version)) condition = none ∧
        m.isBlocked index = false ∧ v = version (m.lastSeqNo + 1) ∧
        m' = m.write index id source := by
  unfold putDocument
  cases refusal? index id ((m.document? index id).map (·.version)) condition with
  | some refusal => simp
  | none => by_cases closed : m.isBlocked index <;> simp [closed, eq_comm]

theorem putDocument_eq_error_iff :
    m.putDocument index id source condition = .error e ↔
      refusal? index id ((m.document? index id).map (·.version)) condition = some e ∨
        refusal? index id ((m.document? index id).map (·.version)) condition = none ∧
          m.isBlocked index = true ∧ e = blocked index := by
  unfold putDocument
  cases refusal? index id ((m.document? index id).map (·.version)) condition with
  | some refusal => simp
  | none => by_cases closed : m.isBlocked index <;> simp [closed, eq_comm]

theorem answer_overwrite (writable : m.isBlocked index = false) (id : String)
    (source : Json.Value) :
    m.answer (.putDocument index id source .overwrite) =
      (.ok (version (m.lastSeqNo + 1)), m.write index id source) := by
  have written : m.putDocument index id source .overwrite =
      .ok (version (m.lastSeqNo + 1), m.write index id source) :=
    putDocument_eq_ok_iff.mpr ⟨rfl, writable, rfl, rfl⟩
  simp only [answer, written]

theorem deleteDocument_eq_ok_iff :
    m.deleteDocument index id expected = .ok m' ↔
      ∃ found stored, m.indices.find? index = some found ∧
        found.documents.find? id = some stored ∧ expected.all (· = stored.version) ∧
        m' = { m with indices := m.indices.insert index { found with
          documents := found.documents.erase id } } := by
  unfold deleteDocument
  cases m.indices.find? index with
  | none => simp
  | some found =>
    cases stored : found.documents.find? id with
    | none => simp [stored]
    | some stored' =>
      by_cases same : expected.all (· = stored'.version)
      · simp [stored, same]
        exact ⟨Eq.symm, Eq.symm⟩
      · simp [stored, same]

theorem deleteDocument_eq_error_iff :
    m.deleteDocument index id expected = .error e ↔
      m.document? index id = none ∧ e = .documentNotFound index id ∨
        ∃ stored, m.document? index id = some stored ∧ expected.all (· = stored.version) = false ∧
          e = .versionConflict index id := by
  unfold deleteDocument document?
  cases m.indices.find? index with
  | none => simpa using ⟨Eq.symm, Eq.symm⟩
  | some found =>
    cases stored : found.documents.find? id with
    | none => simpa [stored] using ⟨Eq.symm, Eq.symm⟩
    | some stored' =>
      by_cases same : expected.all (· = stored'.version)
      · simp [stored, same]
      · simpa [stored, same] using ⟨Eq.symm, Eq.symm⟩

theorem deleteDocument_ne_error (present : m.document? index id ≠ none) :
    m.deleteDocument index id none ≠ .error e := by
  intro refused
  rcases deleteDocument_eq_error_iff.mp refused with ⟨missing, -⟩ | ⟨stored, -, unexpected, -⟩
  · exact present missing
  · cases unexpected

theorem changed_cases {result : Except Error Memory} {a : Except Error Unit}
    (answered : m.changed result = (a, m')) :
    (a = .ok () ∧ result = .ok m') ∨ ∃ e, a = .error e ∧ result = .error e ∧ m' = m := by
  cases result with
  | ok =>
    obtain ⟨rfl, rfl⟩ := Prod.mk.inj answered
    exact .inl ⟨rfl, rfl⟩
  | error e =>
    obtain ⟨rfl, rfl⟩ := Prod.mk.inj answered
    exact .inr ⟨e, rfl, rfl, rfl⟩

theorem putDocument_cases {condition : WriteCondition} {a : Except Error Version}
    (answered : m.answer (.putDocument index id source condition) = (a, m')) :
    (∃ v, a = .ok v ∧ m.putDocument index id source condition = .ok (v, m')) ∨
      ∃ e, a = .error e ∧ m.putDocument index id source condition = .error e ∧ m' = m := by
  cases written : m.putDocument index id source condition with
  | ok =>
    simp only [answer, written] at answered
    obtain ⟨rfl, rfl⟩ := Prod.mk.inj answered
    exact .inl ⟨_, rfl, rfl⟩
  | error e =>
    simp only [answer, written] at answered
    obtain ⟨rfl, rfl⟩ := Prod.mk.inj answered
    exact .inr ⟨e, rfl, rfl, rfl⟩

/-- A fault keeps an index from being deleted; without one it is gone, whether it was there or not. -/
theorem deleteIndex_cases {a : Except Error Unit}
    (answered : m.answer (.deleteIndex index) = (a, m')) :
    index ∈ m.faults.failingDeletion ∧ m' = m ∧
        a = .error (.backend s!"injected delete failure for {index}") ∨
      index ∉ m.faults.failingDeletion ∧
        (∀ i, m'.indices.find? i = if i = index then none else m.indices.find? i) ∧
        (a = .ok () ∨ a = .error (.indexNotFound index)) := by
  rcases changed_cases answered with ⟨rfl, deleted⟩ | ⟨e, rfl, refused, rfl⟩
  · obtain ⟨working, -, rfl⟩ := deleteIndex_eq_ok_iff.mp deleted
    refine .inr ⟨working, fun i => ?_, .inl rfl⟩
    simp only [Table.find?_erase, eq_comm]
  · rcases deleteIndex_eq_error_iff.mp refused with ⟨failing, rfl⟩ | ⟨working, missing, rfl⟩
    · exact .inl ⟨failing, rfl, rfl⟩
    · refine .inr ⟨working, fun i => ?_, .inr rfl⟩
      split
      · rename_i same
        exact same ▸ missing
      · rfl

private theorem change_changed (index : String) {result : Except Error Memory}
    (change : ∀ m', result = .ok m' → m.Change index m') :
    m.Change index (m.changed result).2 := by
  cases result with
  | error => exact .nothing
  | ok m' => exact change m' rfl

theorem change_answer (m : Memory) (c : Call) : m.Change c.index (m.answer c).2 := by
  cases c with
  | createIndex index spec =>
    refine change_changed index fun m' made => ?_
    obtain ⟨-, -, rfl⟩ := createIndex_eq_ok_iff.mp made
    exact .replaced _ (by simp [freshIndex])
  | deleteIndex index =>
    refine change_changed index fun m' made => ?_
    obtain ⟨-, -, rfl⟩ := deleteIndex_eq_ok_iff.mp made
    exact .removed
  | bulkIndex index items =>
    refine change_changed index fun m' made => ?_
    obtain ⟨-, -, rfl⟩ := bulkIndex_eq_ok_iff.mp made
    exact .written items
  | updateSettings index update =>
    refine change_changed index fun m' made => ?_
    obtain ⟨found, present, rfl⟩ := updateSettings_eq_ok_iff.mp made
    exact .replaced _ fun id stored old => by simpa [document?, present] using old
  | putDocument index id source condition =>
    obtain ⟨a, m', answered⟩ :
        ∃ a m', m.answer (.putDocument index id source condition) = (a, m') := ⟨_, _, rfl⟩
    rw [answered]
    rcases putDocument_cases answered with ⟨v, -, made⟩ | ⟨e, -, -, rfl⟩
    · obtain ⟨-, -, -, rfl⟩ := putDocument_eq_ok_iff.mp made
      exact .written [⟨some id, source⟩]
    · exact .nothing
  | deleteDocument index id expected =>
    refine change_changed index fun m' made => ?_
    obtain ⟨found, stored, present, -, -, rfl⟩ := deleteDocument_eq_ok_iff.mp made
    refine .replaced _ fun other old kept => ?_
    rw [Table.find?_erase] at kept
    split at kept
    · cases kept
    · simpa [document?, present] using kept
  | _ => exact .nothing

theorem answer_of_isRead {c : Call} (reads : c.isRead) : (m.answer c).2 = m := by
  cases c <;> first | rfl | cases reads

theorem find?_write_of_ne (m : Memory) (different : other ≠ index) :
    (m.write index id source).indices.find? other = m.indices.find? other := by
  simp [write, Table.find?_insert, different.symm]

theorem document?_write_self (m : Memory) (index id : String) (source : Json.Value) :
    (m.write index id source).document? index id = some ⟨version (m.lastSeqNo + 1), source⟩ := by
  simp [write, document?]

theorem document?_write_of_ne (m : Memory) (different : id' ≠ id) :
    (m.write index id source).document? index id' = m.document? index id' := by
  cases found : m.indices.find? index <;>
    simp [write, document?, found, Table.find?_insert, different.symm, freshIndex]

theorem isBlocked_write (m : Memory) (index id other : String) (source : Json.Value) :
    (m.write index id source).isBlocked other = m.isBlocked other := by
  by_cases same : index = other
  · subst same
    cases found : m.indices.find? index <;> simp [write, isBlocked, found, freshIndex]
  · simp [isBlocked, find?_write_of_ne m (Ne.symm same)]

theorem document?_write
    (there : (m.write index id source).document? index id' = some stored) :
    m.document? index id' = some stored ∨ stored.version.seqNo = m.lastSeqNo + 1 := by
  by_cases same : id' = id
  · subst same
    rw [document?_write_self] at there
    cases there
    exact .inr rfl
  · exact .inl (document?_write_of_ne m same ▸ there)

theorem foldl_writeItem_induction (index : String) (holds : Memory → Prop)
    (step : ∀ m id source, holds m → holds (m.write index id source)) (start : holds m)
    (items : List BulkItem) : holds (items.foldl (writeItem index) m) := by
  induction items generalizing m with
  | nil => exact start
  | cons item rest ih => exact ih (step m _ item.source start)

theorem Change.faults (change : m.Change index m') : m'.faults = m.faults := by
  cases change with
  | written items =>
    exact foldl_writeItem_induction index (fun m' => m'.faults = m.faults)
      (fun _ _ _ same => same) rfl items
  | _ => rfl

theorem Change.lastSeqNo_le (change : m.Change index m') :
    m.lastSeqNo ≤ m'.lastSeqNo := by
  cases change with
  | written items =>
    exact foldl_writeItem_induction index (fun m' => m.lastSeqNo ≤ m'.lastSeqNo)
      (fun _ _ _ le => Nat.le_succ_of_le le) (Nat.le_refl _) items
  | _ => exact Nat.le_refl _

theorem Change.find?_of_ne (change : m.Change index m') (different : other ≠ index) :
    m'.indices.find? other = m.indices.find? other := by
  cases change with
  | nothing => rfl
  | removed => simp [Table.find?_erase, different.symm]
  | replaced => simp [Table.find?_insert, different.symm]
  | written items =>
    exact foldl_writeItem_induction index
      (fun m' => m'.indices.find? other = m.indices.find? other)
      (fun m' _ _ same => (find?_write_of_ne m' different).trans same) rfl items

theorem Change.document?_of_ne (change : m.Change index m')
    (different : other ≠ index) (id : String) : m'.document? other id = m.document? other id := by
  rw [document?, document?, change.find?_of_ne different]

/-- A document that is there after a change was there before, or has a sequence number that has
been given out by the change. -/
theorem Change.document? (change : m.Change index m')
    (there : m'.document? other id = some stored) :
    m.document? other id = some stored ∨
      m.lastSeqNo < stored.version.seqNo ∧ stored.version.seqNo ≤ m'.lastSeqNo := by
  by_cases different : other = index
  · subst different
    cases change with
    | nothing => exact .inl there
    | removed => simp [Memory.document?] at there
    | replaced next old => exact .inl (old id stored (by simpa [Memory.document?] using there))
    | written items =>
      refine foldl_writeItem_induction other (fun m' =>
        m.lastSeqNo ≤ m'.lastSeqNo ∧ (m'.document? other id = some stored →
          m.document? other id = some stored ∨
            m.lastSeqNo < stored.version.seqNo ∧ stored.version.seqNo ≤ m'.lastSeqNo))
        (fun m' id' source ⟨le, before⟩ => ⟨Nat.le_succ_of_le le, fun there => ?_⟩)
        ⟨Nat.le_refl _, .inl⟩ items |>.2 there
      rcases document?_write there with old | fresh
      · exact (before old).imp_right fun ⟨lt, upTo⟩ => ⟨lt, Nat.le_succ_of_le upTo⟩
      · exact .inr (fresh ▸ ⟨Nat.lt_succ_of_le le, Nat.le_refl _⟩)
  · exact .inl (change.document?_of_ne different id ▸ there)

private theorem changed_kept (holds : Memory → Prop) (start : holds m) {result : Except Error Memory}
    (kept : ∀ m', result = .ok m' → holds m') : holds (m.changed result).2 := by
  cases result with
  | error => exact start
  | ok m' => exact kept m' rfl

private theorem isBlocked_insert (next : MemoryIndex) :
    isBlocked { m with indices := m.indices.insert index next } other =
      if index = other then next.writeBlocked else m.isBlocked other := by
  unfold isBlocked
  rw [Table.find?_insert]
  split <;> rfl

theorem isBlocked_answer {c : Call} (notSettings : ∀ update, c ≠ .updateSettings other update)
    (writable : m.isBlocked other = false) : (m.answer c).2.isBlocked other = false := by
  cases c with
  | createIndex index spec =>
    refine changed_kept (·.isBlocked other = false) writable fun m' made => ?_
    obtain ⟨-, -, rfl⟩ := createIndex_eq_ok_iff.mp made
    rw [isBlocked_insert]
    split
    · rfl
    · exact writable
  | deleteIndex index =>
    refine changed_kept (·.isBlocked other = false) writable fun m' made => ?_
    obtain ⟨-, -, rfl⟩ := deleteIndex_eq_ok_iff.mp made
    unfold isBlocked
    rw [Table.find?_erase]
    split
    · rfl
    · exact writable
  | bulkIndex index items =>
    refine changed_kept (·.isBlocked other = false) writable fun m' made => ?_
    obtain ⟨-, -, rfl⟩ := bulkIndex_eq_ok_iff.mp made
    exact foldl_writeItem_induction index (fun m' => m'.isBlocked other = false)
      (fun m' id source kept => (isBlocked_write m' index id other source).trans kept) writable items
  | updateSettings index update =>
    refine changed_kept (·.isBlocked other = false) writable fun m' made => ?_
    obtain ⟨found, -, rfl⟩ := updateSettings_eq_ok_iff.mp made
    rw [isBlocked_insert]
    split
    · rename_i same
      exact absurd (same ▸ rfl) (notSettings update)
    · exact writable
  | putDocument index id source condition =>
    obtain ⟨a, m', answered⟩ :
        ∃ a m', m.answer (.putDocument index id source condition) = (a, m') := ⟨_, _, rfl⟩
    rw [answered]
    rcases putDocument_cases answered with ⟨v, -, made⟩ | ⟨e, -, -, rfl⟩
    · obtain ⟨-, -, -, rfl⟩ := putDocument_eq_ok_iff.mp made
      exact (isBlocked_write m index id other source).trans writable
    · exact writable
  | deleteDocument index id expected =>
    refine changed_kept (·.isBlocked other = false) writable fun m' made => ?_
    obtain ⟨found, stored, present, -, -, rfl⟩ := deleteDocument_eq_ok_iff.mp made
    rw [isBlocked_insert]
    split
    · rename_i same
      subst same
      simpa [isBlocked, present] using writable
    · exact writable
  | _ => exact writable

theorem document?_create (missing : m.indices.find? index = none) (replicasExpanded : Bool)
    (other id : String) :
    document? { m with indices := m.indices.insert index (freshIndex replicasExpanded) } other id =
      m.document? other id := by
  by_cases same : index = other
  · subst same
    simp [document?, missing, freshIndex]
  · simp [document?, Table.find?_insert, same]

theorem isBlocked_create (missing : m.indices.find? index = none) (replicasExpanded : Bool)
    (other : String) :
    isBlocked { m with indices := m.indices.insert index (freshIndex replicasExpanded) } other =
      m.isBlocked other := by
  rw [isBlocked_insert]
  split
  · rename_i same
    simp [← same, isBlocked, missing, freshIndex]
  · rfl

theorem document?_deleteDocument (deleted : m.deleteDocument index id expected = .ok m')
    (other id' : String) :
    m'.document? other id' = if other = index ∧ id' = id then none else m.document? other id' := by
  obtain ⟨found, stored, present, -, -, rfl⟩ := deleteDocument_eq_ok_iff.mp deleted
  by_cases same : other = index
  · subst same
    by_cases same' : id' = id
    · subst same'
      simp [document?]
    · simp [document?, present, Table.find?_erase, same', Ne.symm same']
  · simp [document?, Table.find?_insert, same, Ne.symm same]

theorem isBlocked_deleteDocument (deleted : m.deleteDocument index id expected = .ok m')
    (other : String) : m'.isBlocked other = m.isBlocked other := by
  obtain ⟨found, stored, present, -, -, rfl⟩ := deleteDocument_eq_ok_iff.mp deleted
  rw [isBlocked_insert]
  split
  · rename_i same
    simp [← same, isBlocked, present]
  · rfl

theorem present_write (present : m.document? index id ≠ none) (other id' : String)
    (source : Json.Value) : (m.write other id' source).document? index id ≠ none := by
  by_cases about : index = other
  · subst about
    by_cases same : id = id'
    · subst same
      rw [document?_write_self]
      exact nofun
    · rw [document?_write_of_ne m same]
      exact present
  · rw [document?, find?_write_of_ne m about]
    exact present

/-- A document stays as long as its index is there, unless it is deleted itself. -/
theorem present_answer {c : Call} (others : ∀ expected, c ≠ .deleteDocument index id expected)
    (present : m.document? index id ≠ none)
    (there : (m.answer c).2.indices.find? index ≠ none) :
    (m.answer c).2.document? index id ≠ none := by
  by_cases other : index ≠ c.index
  · rw [(change_answer m c).document?_of_ne other]
    exact present
  obtain rfl := Decidable.not_not.mp other
  cases c with
  | createIndex index spec =>
    refine changed_kept (·.document? index id ≠ none) present fun m' made => ?_
    obtain ⟨-, missing, rfl⟩ := createIndex_eq_ok_iff.mp made
    rw [document?_create missing]
    exact present
  | deleteIndex index =>
    revert there
    refine changed_kept (fun m' => m'.indices.find? index ≠ none → m'.document? index id ≠ none)
      (fun _ => present) fun m' made there => ?_
    obtain ⟨-, -, rfl⟩ := deleteIndex_eq_ok_iff.mp made
    simp at there
  | bulkIndex index items =>
    refine changed_kept (·.document? index id ≠ none) present fun m' made => ?_
    obtain ⟨-, -, rfl⟩ := bulkIndex_eq_ok_iff.mp made
    exact foldl_writeItem_induction index (fun m' => m'.document? index id ≠ none)
      (fun m' id' source present => present_write present index id' source) present items
  | updateSettings index update =>
    refine changed_kept (·.document? index id ≠ none) present fun m' made => ?_
    obtain ⟨found, known, rfl⟩ := updateSettings_eq_ok_iff.mp made
    simpa [document?, known, Call.index] using present
  | putDocument index id' source condition =>
    obtain ⟨a, m', answered⟩ :
        ∃ a m', m.answer (.putDocument index id' source condition) = (a, m') := ⟨_, _, rfl⟩
    rw [answered]
    rcases putDocument_cases answered with ⟨v, -, made⟩ | ⟨e, -, -, rfl⟩
    · obtain ⟨-, -, -, rfl⟩ := putDocument_eq_ok_iff.mp made
      exact present_write present index id' source
    · exact present
  | deleteDocument index id' expected =>
    refine changed_kept (·.document? index id ≠ none) present fun m' made => ?_
    have different : id ≠ id' := by
      rintro rfl
      exact others expected rfl
    rw [document?_deleteDocument made, if_neg fun same => different same.2]
    exact present
  | _ => exact present

/-- How an index is kept, whatever its documents: whether it takes no writes, and whether the store
keeps a second copy of it. -/
def flags? (m : Memory) (index : String) : Option (Bool × Bool) :=
  (m.indices.find? index).map fun found => (found.writeBlocked, found.replicasExpanded)

theorem flags?_insert (m : Memory) (next : MemoryIndex) :
    flags? { m with indices := m.indices.insert index next } index =
      some (next.writeBlocked, next.replicasExpanded) := by
  simp [flags?]

/-- Nothing has changed but one document of an index, which may have been made for it. -/
structure DocumentChange (m : Memory) (index id : String) (m' : Memory) : Prop where
  faults : m'.faults = m.faults
  indices : ∀ i, i ≠ index → m'.indices.find? i = m.indices.find? i
  documents : ∀ other, other ≠ id → m'.document? index other = m.document? index other
  blocked : m'.isBlocked index = m.isBlocked index
  flags : ∀ flags, m.flags? index = some flags → m'.flags? index = some flags

theorem DocumentChange.refl (m : Memory) (index id : String) : m.DocumentChange index id m :=
  ⟨rfl, fun _ _ => rfl, fun _ _ => rfl, rfl, fun _ there => there⟩

theorem DocumentChange.trans {m'' : Memory} (first : m.DocumentChange index id m')
    (second : m'.DocumentChange index id m'') : m.DocumentChange index id m'' where
  faults := second.faults.trans first.faults
  indices := fun i other => (second.indices i other).trans (first.indices i other)
  documents := fun i other => (second.documents i other).trans (first.documents i other)
  blocked := second.blocked.trans first.blocked
  flags := fun flags there => second.flags flags (first.flags flags there)

theorem documentChange_write (m : Memory) (index id : String) (source : Json.Value) :
    m.DocumentChange index id (m.write index id source) where
  faults := rfl
  indices := fun _ => find?_write_of_ne m
  documents := fun _ => document?_write_of_ne m
  blocked := isBlocked_write m index id index source
  flags := by
    intro flags there
    unfold write
    cases found : m.indices.find? index with
    | none => simp [flags?, found] at there
    | some before => simpa [flags?, found] using there

theorem documentChange_delete (deleted : m.deleteDocument index id expected = .ok m') :
    m.DocumentChange index id m' where
  faults := by
    obtain ⟨found, stored, present, -, -, rfl⟩ := deleteDocument_eq_ok_iff.mp deleted
    rfl
  indices := by
    intro i different
    obtain ⟨found, stored, present, -, -, rfl⟩ := deleteDocument_eq_ok_iff.mp deleted
    simp [Table.find?_insert, different.symm]
  documents := fun other different => by
    rw [document?_deleteDocument deleted]
    exact if_neg fun both => different both.2
  blocked := isBlocked_deleteDocument deleted index
  flags := by
    intro flags there
    obtain ⟨found, stored, present, -, -, rfl⟩ := deleteDocument_eq_ok_iff.mp deleted
    rw [flags?_insert]
    simpa [flags?, present] using there

theorem documentChange_create (missing : m.indices.find? index = none) (replicasExpanded : Bool)
    (id : String) : m.DocumentChange index id
      { m with indices := m.indices.insert index (freshIndex replicasExpanded) } where
  faults := rfl
  indices := fun i different => by simp [Table.find?_insert, different.symm]
  documents := fun other _ => document?_create missing replicasExpanded index other
  blocked := isBlocked_create missing replicasExpanded index
  flags := by
    intro flags there
    simp [flags?, missing] at there

/-- A store as calls and faults leave it. -/
inductive Made : Memory → Prop where
  | empty : Made .empty
  | answered {m : Memory} (made : Made m) (c : Call) : Made (m.answer c).2
  | faulty {m : Memory} (made : Made m) (faults : Faults) : Made { m with faults }

/-- Every sequence number of a document has been given out. -/
def Numbered (m : Memory) : Prop :=
  ∀ index id stored, m.document? index id = some stored → stored.version.seqNo ≤ m.lastSeqNo

theorem Numbered.change (numbered : m.Numbered) (change : m.Change index m') : m'.Numbered := by
  intro other id stored there
  rcases change.document? there with old | ⟨-, upTo⟩
  · exact Nat.le_trans (numbered other id stored old) change.lastSeqNo_le
  · exact upTo

theorem Made.numbered (made : m.Made) : m.Numbered := by
  induction made with
  | empty => exact fun _ _ _ there => by cases there
  | answered _ c ih => exact ih.change (change_answer _ c)
  | faulty _ _ ih => exact ih

end Memory

end IndicatorFeeds.Store

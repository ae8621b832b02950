import IndicatorFeeds.Proofs.Store.Memory

/-!
The versions that a store in memory gives out. They are counted: whatever is asked of a store, those
that it has given out are the numbers from one up to its counter, each of them once, and every document
has one of them that no other document has. A call that is refused and a call that only looks change
nothing, and a condition is met by the very version that it names.
-/

namespace IndicatorFeeds.Store

/-- Whether a document that is stored with this version, if it is, is as it must be. -/
def WriteCondition.Holds (stored : Option Version) : WriteCondition → Prop
  | .create => stored = none
  | .ifVersion expected => stored = some expected
  | .overwrite => True

namespace Memory

variable {m m' : Memory} {index other id id' : String} {source : Json.Value} {given : List Version}

theorem refusal?_eq_none_iff (index id : String) {stored : Option Version}
    {condition : WriteCondition} :
    refusal? index id stored condition = none ↔ condition.Holds stored := by
  cases condition with
  | create => cases stored <;> simp [refusal?, WriteCondition.Holds]
  | ifVersion expected =>
    by_cases same : stored = some expected <;> simp [refusal?, WriteCondition.Holds, same]
  | overwrite => simp [refusal?, WriteCondition.Holds]

/-- The version of a document. -/
def version? (m : Memory) (index id : String) : Option Version :=
  (m.document? index id).map (·.version)

/-- The versions that the documents of a bulk are written with, one after another. -/
def bulkVersions (index : String) (m : Memory) : List BulkItem → List Version
  | [] => []
  | item :: rest => version (m.lastSeqNo + 1) :: bulkVersions index (writeItem index m item) rest

/-- The versions that a call gives out. -/
def givenOut (m : Memory) : Call → List Version
  | .putDocument index id source condition =>
    match m.putDocument index id source condition with
    | .ok (v, _) => [v]
    | .error _ => []
  | .bulkIndex index items =>
    match m.bulkIndex index items with
    | .ok _ => bulkVersions index m items
    | .error _ => []
  | _ => []

/-- The versions with the numbers from one up to this one. -/
def firstVersions (count : Nat) : List Version := (List.range count).map fun n => version (n + 1)

theorem firstVersions_succ (count : Nat) :
    firstVersions (count + 1) = firstVersions count ++ [version (count + 1)] := by
  simp [firstVersions, List.range_succ]

theorem mem_firstVersions_iff {v : Version} {count : Nat} :
    v ∈ firstVersions count ↔ 1 ≤ v.seqNo ∧ v.seqNo ≤ count ∧ v.primaryTerm = primaryTerm := by
  simp only [firstVersions, List.mem_map, List.mem_range]
  constructor
  · rintro ⟨n, less, rfl⟩
    exact ⟨Nat.succ_pos n, less, rfl⟩
  · rintro ⟨positive, upTo, term⟩
    refine ⟨v.seqNo - 1, by omega, ?_⟩
    rw [Nat.sub_add_cancel positive, version, ← term]

theorem lastSeqNo_foldl_writeItem (index : String) (m : Memory) (items : List BulkItem) :
    (items.foldl (writeItem index) m).lastSeqNo = m.lastSeqNo + items.length := by
  induction items generalizing m with
  | nil => rfl
  | cons item rest ih =>
    have one : (writeItem index m item).lastSeqNo = m.lastSeqNo + 1 := rfl
    rw [List.foldl_cons, ih, one, List.length_cons]
    omega

/-- The documents of a bulk get the versions that come next. -/
theorem firstVersions_append_bulkVersions (index : String) (m : Memory) (items : List BulkItem) :
    firstVersions m.lastSeqNo ++ bulkVersions index m items =
      firstVersions (items.foldl (writeItem index) m).lastSeqNo := by
  induction items generalizing m with
  | nil => exact List.append_nil _
  | cons item rest ih =>
    have one : (writeItem index m item).lastSeqNo = m.lastSeqNo + 1 := rfl
    rw [List.foldl_cons, ← ih, one, firstVersions_succ, bulkVersions, List.append_assoc,
      List.singleton_append]

private theorem lastSeqNo_changed {result : Except Error Memory}
    (kept : ∀ m', result = .ok m' → m'.lastSeqNo = m.lastSeqNo) :
    (m.changed result).2.lastSeqNo = m.lastSeqNo := by
  cases result with
  | error => rfl
  | ok m' => exact kept m' rfl

private theorem firstVersions_unmoved (same : m'.lastSeqNo = m.lastSeqNo) :
    firstVersions m.lastSeqNo ++ [] = firstVersions m'.lastSeqNo := by
  rw [List.append_nil, same]

/-- A call gives out the versions that come next, as many as it moves the counter. -/
theorem firstVersions_append_givenOut (m : Memory) (c : Call) :
    firstVersions m.lastSeqNo ++ m.givenOut c = firstVersions (m.answer c).2.lastSeqNo := by
  cases c with
  | bulkIndex index items =>
    simp only [givenOut, answer]
    cases written : m.bulkIndex index items with
    | error e => exact List.append_nil _
    | ok m' =>
      obtain ⟨-, -, rfl⟩ := bulkIndex_eq_ok_iff.mp written
      exact firstVersions_append_bulkVersions index m items
  | putDocument index id source condition =>
    simp only [givenOut, answer]
    cases written : m.putDocument index id source condition with
    | error e => exact List.append_nil _
    | ok result =>
      obtain ⟨v, next⟩ := result
      obtain ⟨-, -, rfl, rfl⟩ := putDocument_eq_ok_iff.mp written
      exact (firstVersions_succ m.lastSeqNo).symm
  | createIndex index spec =>
    refine firstVersions_unmoved (lastSeqNo_changed fun m' made => ?_)
    obtain ⟨-, -, rfl⟩ := createIndex_eq_ok_iff.mp made
    rfl
  | deleteIndex index =>
    refine firstVersions_unmoved (lastSeqNo_changed fun m' made => ?_)
    obtain ⟨-, -, rfl⟩ := deleteIndex_eq_ok_iff.mp made
    rfl
  | updateSettings index update =>
    refine firstVersions_unmoved (lastSeqNo_changed fun m' made => ?_)
    obtain ⟨found, -, rfl⟩ := updateSettings_eq_ok_iff.mp made
    rfl
  | deleteDocument index id expected =>
    refine firstVersions_unmoved (lastSeqNo_changed fun m' made => ?_)
    obtain ⟨found, stored, -, -, -, rfl⟩ := deleteDocument_eq_ok_iff.mp made
    rfl
  | _ => exact firstVersions_unmoved rfl

/-- Every document has a version that has been given out, which no other document has. -/
structure Distinct (m : Memory) : Prop where
  numbered : ∀ index id stored, m.document? index id = some stored →
    stored.version ∈ firstVersions m.lastSeqNo
  apart : ∀ index id other id' stored stored', m.document? index id = some stored →
    m.document? other id' = some stored' → stored.version = stored'.version →
    index = other ∧ id = id'

theorem Distinct.fewer (distinct : m.Distinct) (same : m'.lastSeqNo = m.lastSeqNo)
    (old : ∀ index id stored, m'.document? index id = some stored →
      m.document? index id = some stored) : m'.Distinct where
  numbered := fun index id stored there => same ▸ distinct.numbered index id stored (old _ _ _ there)
  apart := fun _ _ _ _ _ _ there there' =>
    distinct.apart _ _ _ _ _ _ (old _ _ _ there) (old _ _ _ there')

private theorem document?_write_cases {stored : StoredDocument}
    (there : (m.write index id source).document? other id' = some stored) :
    (other = index ∧ id' = id ∧ stored.version = version (m.lastSeqNo + 1)) ∨
      m.document? other id' = some stored := by
  by_cases about : other = index
  · subst about
    by_cases same : id' = id
    · subst same
      rw [document?_write_self] at there
      obtain rfl := Option.some.inj there
      exact .inl ⟨rfl, rfl, rfl⟩
    · exact .inr (document?_write_of_ne m same ▸ there)
  · rw [document?, find?_write_of_ne m about] at there
    exact .inr there

theorem Distinct.write (distinct : m.Distinct) (index id : String) (source : Json.Value) :
    (m.write index id source).Distinct := by
  have next : (m.write index id source).lastSeqNo = m.lastSeqNo + 1 := rfl
  have fresh {i j : String} {stored : StoredDocument} (there : m.document? i j = some stored) :
      stored.version ≠ version (m.lastSeqNo + 1) := fun same => by
    have upTo := (mem_firstVersions_iff.mp (same ▸ distinct.numbered i j stored there)).2.1
    exact Nat.not_succ_le_self _ upTo
  refine ⟨fun i j stored there => ?_, fun i j i' j' stored stored' there there' same => ?_⟩
  · rw [next, firstVersions_succ, List.mem_append, List.mem_singleton]
    rcases document?_write_cases there with ⟨-, -, new⟩ | old
    · exact .inr new
    · exact .inl (distinct.numbered i j stored old)
  · rcases document?_write_cases there with ⟨rfl, rfl, new⟩ | old
    · rcases document?_write_cases there' with ⟨rfl, rfl, -⟩ | old'
      · exact ⟨rfl, rfl⟩
      · exact absurd (same.symm.trans new) (fresh old')
    · rcases document?_write_cases there' with ⟨-, -, new'⟩ | old'
      · exact absurd (same.trans new') (fresh old)
      · exact distinct.apart _ _ _ _ _ _ old old' same

theorem Distinct.change (distinct : m.Distinct) (change : m.Change index m') : m'.Distinct := by
  have kept (same : m'.lastSeqNo = m.lastSeqNo) : m'.Distinct := by
    refine distinct.fewer same fun i j stored there => ?_
    rcases change.document? there with old | ⟨after, upTo⟩
    · exact old
    · exact absurd (Nat.lt_of_lt_of_le after (same ▸ upTo)) (Nat.lt_irrefl _)
  cases change with
  | written items =>
    exact foldl_writeItem_induction index Distinct
      (fun m id source distinct => distinct.write index id source) distinct items
  | _ => exact kept rfl

/-- A call that is refused changes nothing, and neither does one that only looks. -/
theorem answer_unchanged {c : Call} (idle : c.isRead ∨ ∃ e, (m.answer c).1 = .error e) :
    (m.answer c).2 = m := by
  rcases idle with reads | ⟨e, refused⟩
  · exact answer_of_isRead reads
  have unchanged {result : Except Error Memory} (refused : (m.changed result).1 = .error e) :
      (m.changed result).2 = m := by
    cases result with
    | error => rfl
    | ok => cases refused
  cases c with
  | putDocument index id source condition =>
    rcases putDocument_cases (m := m) rfl with ⟨v, accepted, -⟩ | ⟨-, -, -, same⟩
    · cases refused.symm.trans accepted
    · exact same
  | createIndex | deleteIndex | bulkIndex | updateSettings | deleteDocument =>
    exact unchanged refused
  | _ => rfl

/-- A write is accepted just if its condition holds and its index takes writes; it has the next
version then. -/
theorem putDocument_answer_iff {condition : WriteCondition} {v : Version} :
    (m.answer (.putDocument index id source condition)).1 = .ok v ↔
      condition.Holds (m.version? index id) ∧ m.isBlocked index = false ∧
        v = version (m.lastSeqNo + 1) := by
  rw [← refusal?_eq_none_iff index id]
  constructor
  · intro accepted
    rcases putDocument_cases (m := m) rfl with ⟨v', same, written⟩ | ⟨e, refused, -⟩
    · obtain rfl := Except.ok.inj (accepted.symm.trans same)
      obtain ⟨holds, writable, next, -⟩ := putDocument_eq_ok_iff.mp written
      exact ⟨holds, writable, next⟩
    · cases accepted.symm.trans refused
  · rintro ⟨holds, writable, rfl⟩
    have written : m.putDocument index id source condition = .ok (version (m.lastSeqNo + 1), _) :=
      putDocument_eq_ok_iff.mpr ⟨holds, writable, rfl, rfl⟩
    simp only [answer, written]

theorem bulkIndex_lastSeqNo {items : List BulkItem}
    (accepted : (m.answer (.bulkIndex index items)).1 = .ok ()) :
    (m.answer (.bulkIndex index items)).2.lastSeqNo = m.lastSeqNo + items.length := by
  have answered : m.changed (m.bulkIndex index items) =
      (.ok (), (m.answer (.bulkIndex index items)).2) := Prod.ext accepted rfl
  rcases changed_cases answered with ⟨-, written⟩ | ⟨e, refused, -⟩
  · obtain ⟨-, -, same⟩ := bulkIndex_eq_ok_iff.mp written
    exact (congrArg lastSeqNo same).trans (lastSeqNo_foldl_writeItem index m items)
  · cases refused

/-- A deletion that names a version is accepted just if the document has it. -/
theorem deleteDocument_answer_iff {expected : Version} :
    (m.answer (.deleteDocument index id (some expected))).1 = .ok () ↔
      m.version? index id = some expected := by
  constructor
  · intro accepted
    have answered : m.changed (m.deleteDocument index id (some expected)) =
        (.ok (), (m.answer (.deleteDocument index id (some expected))).2) := Prod.ext accepted rfl
    rcases changed_cases answered with ⟨-, deleted⟩ | ⟨e, refused, -⟩
    · obtain ⟨found, stored, present, there, same, -⟩ := deleteDocument_eq_ok_iff.mp deleted
      simp only [Option.all_some, decide_eq_true_eq] at same
      simp [version?, document?, present, there, same]
    · cases refused
  · intro there
    simp only [version?, Option.map_eq_some_iff, document?, Option.bind_eq_some_iff] at there
    obtain ⟨stored, ⟨found, present, there⟩, rfl⟩ := there
    have deleted : m.deleteDocument index id (some stored.version) = .ok _ :=
      deleteDocument_eq_ok_iff.mpr ⟨found, stored, present, there, by simp, rfl⟩
    simp only [answer, deleted]
    rfl

/-- A store as calls and faults leave it, and the versions that it has given out on the way. -/
inductive Ran : List Version → Memory → Prop where
  | empty : Ran [] .empty
  | answered {given : List Version} {m : Memory} (ran : Ran given m) (c : Call) :
    Ran (given ++ m.givenOut c) (m.answer c).2
  | faulty {given : List Version} {m : Memory} (ran : Ran given m) (faults : Faults) :
    Ran given { m with faults }

theorem Ran.given_eq (ran : Ran given m) : given = firstVersions m.lastSeqNo := by
  induction ran with
  | empty => rfl
  | answered _ c ih => rw [ih, firstVersions_append_givenOut]
  | faulty _ _ ih => exact ih

theorem Ran.distinct (ran : Ran given m) : m.Distinct := by
  induction ran with
  | empty => exact ⟨nofun, nofun⟩
  | answered _ c ih => exact ih.change (change_answer _ c)
  | faulty _ _ ih => exact ih.fewer rfl fun _ _ _ => id

/-- What holds of a store that has given out these versions, and of the next call on it. -/
structure Accounted (given : List Version) (m : Memory) : Prop where
  /-- The counter says how many versions have been given out: they are the numbers up to it. -/
  given_eq : given = (List.range m.lastSeqNo).map fun n => version (n + 1)
  numbered : ∀ index id v, m.version? index id = some v →
    v ∈ given ∧ v.seqNo ≤ m.lastSeqNo ∧ v.primaryTerm = 1
  apart : ∀ index id other id' v, m.version? index id = some v → m.version? other id' = some v →
    index = other ∧ id = id'
  /-- An accepted write has a version after all those that have been given out. -/
  fresh : ∀ index id source condition v,
    (m.answer (.putDocument index id source condition)).1 = .ok v → ∀ w ∈ given, w.seqNo < v.seqNo
  written : ∀ index id source condition v,
    (m.answer (.putDocument index id source condition)).1 = .ok v →
      (m.answer (.putDocument index id source condition)).2.version? index id = some v
  counted : ∀ index items, (m.answer (.bulkIndex index items)).1 = .ok () →
    (m.answer (.bulkIndex index items)).2.lastSeqNo = m.lastSeqNo + items.length
  unchanged : ∀ c : Call, (c.isRead ∨ ∃ e, (m.answer c).1 = .error e) → (m.answer c).2 = m
  writes : ∀ index id source condition,
    (∃ v, (m.answer (.putDocument index id source condition)).1 = .ok v) ↔
      condition.Holds (m.version? index id) ∧ m.isBlocked index = false
  deletes : ∀ index id expected,
    (m.answer (.deleteDocument index id (some expected))).1 = .ok () ↔
      m.version? index id = some expected

/-- Every store that calls and faults can lead to accounts for the versions that it has given out. -/
theorem Ran.accounted (ran : Ran given m) : m.Accounted given where
  given_eq := ran.given_eq
  numbered := by
    intro index id v there
    obtain ⟨stored, found, rfl⟩ := Option.map_eq_some_iff.mp there
    have member := ran.distinct.numbered index id stored found
    obtain ⟨-, upTo, term⟩ := mem_firstVersions_iff.mp member
    exact ⟨ran.given_eq ▸ member, upTo, term⟩
  apart := by
    intro index id other id' v there there'
    obtain ⟨stored, found, rfl⟩ := Option.map_eq_some_iff.mp there
    obtain ⟨stored', found', same⟩ := Option.map_eq_some_iff.mp there'
    exact ran.distinct.apart _ _ _ _ _ _ found found' same.symm
  fresh := by
    intro index id source condition v accepted w member
    obtain ⟨-, -, rfl⟩ := putDocument_answer_iff.mp accepted
    rw [ran.given_eq] at member
    exact Nat.lt_succ_of_le (mem_firstVersions_iff.mp member).2.1
  written := by
    intro index id source condition v accepted
    rcases putDocument_cases (m := m) rfl with ⟨v', same, written⟩ | ⟨e, refused, -⟩
    · obtain rfl := Except.ok.inj (accepted.symm.trans same)
      obtain ⟨-, -, rfl, made⟩ := putDocument_eq_ok_iff.mp written
      have stored : (m.write index id source).version? index id = some (version (m.lastSeqNo + 1)) := by
        rw [version?, document?_write_self, Option.map_some]
      exact (congrArg (·.version? index id) made).trans stored
    · cases accepted.symm.trans refused
  counted := fun _ _ => bulkIndex_lastSeqNo
  unchanged := fun _ => answer_unchanged
  writes := by
    intro index id source condition
    constructor
    · rintro ⟨v, accepted⟩
      obtain ⟨holds, writable, -⟩ := putDocument_answer_iff.mp accepted
      exact ⟨holds, writable⟩
    · rintro ⟨holds, writable⟩
      exact ⟨_, putDocument_answer_iff.mpr ⟨holds, writable, rfl⟩⟩
  deletes := fun _ _ _ => deleteDocument_answer_iff

/-- The versions that have been given out and the store, after one more call. -/
private def followed (s : List Version × Memory) (c : Call) : List Version × Memory :=
  (s.1 ++ s.2.givenOut c, (s.2.answer c).2)

private theorem ran_followed (calls : List Call) (s : List Version × Memory) (ran : Ran s.1 s.2) :
    Ran (calls.foldl followed s).1 (calls.foldl followed s).2 := by
  induction calls generalizing s with
  | nil => exact ran
  | cons c rest ih => exact ih _ (ran.answered c)

/-- A document is written and deleted, with two of one id in an index that is filled in between. -/
private def deletion : List Call := [
  .putDocument ".locks" "feed-x" .null .create, .createIndex "feed-x-1" (.system .null),
  .bulkIndex "feed-x-1" [⟨some "a", .null⟩, ⟨some "a", .bool true⟩],
  .deleteDocument ".locks" "feed-x" (some (version 1))]

private def deleted : Memory := (deletion.foldl followed ([], .empty)).2

/-- A document that is made again where it was deleted does not get its version back. -/
theorem Ran.accounted_made_again : Ran [version 1, version 2, version 3] deleted ∧
    deleted.Accounted [version 1, version 2, version 3] ∧
    deleted.version? "feed-x-1" "a" = some (version 3) ∧
    (deleted.answer (.putDocument ".locks" "feed-x" .null (.ifVersion (version 1)))).1 =
      .error (.versionConflict ".locks" "feed-x") ∧
    (deleted.answer (.putDocument ".locks" "feed-x" .null .create)).1 = .ok (version 4) ∧
    ∀ w ∈ [version 1, version 2, version 3], w.seqNo < (version 4).seqNo := by
  have ran : Ran [version 1, version 2, version 3] deleted := ran_followed deletion ([], .empty) .empty
  have accounted := Ran.accounted ran
  have again : (deleted.answer (.putDocument ".locks" "feed-x" .null .create)).1 =
      .ok (version 4) := rfl
  exact ⟨ran, accounted, rfl, rfl, again, accounted.fresh _ _ _ _ _ again⟩

end Memory

end IndicatorFeeds.Store

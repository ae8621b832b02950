import Mathlib.Algebra.GroupWithZero.Nat
import IndicatorFeeds.Proofs.Program.Replies
import IndicatorFeeds.Rotation.Populate
import IndicatorFeeds.World

/-!
The batches that the rows of a feed are written in. They hold the documents of the rows in order, all of
them full but perhaps the last one. Where the feed breaks off, the batch that has been begun is lost; a
batch that is refused is the last thing that is asked for.
-/

namespace IndicatorFeeds.Rotation

open Store (BulkItem)
open Program

section

variable {α : Type} {size : Nat} {items batch : List α}

/-- Items cut into batches of one size, the last of which may be shorter. -/
def inBatches (size : Nat) (items : List α) : List (List α) :=
  if items.isEmpty || size = 0 then [] else items.take size :: inBatches size (items.drop size)
termination_by items.length
decreasing_by
  rename_i more
  simp only [Bool.or_eq_true, List.isEmpty_iff, decide_eq_true_eq, not_or] at more
  have := List.length_pos_iff.mpr more.1
  simp only [List.length_drop]
  omega

/-- Batches that items may be cut into: nothing is lost or moved, no batch is empty, all but the last are
full, and none is more than that. -/
structure Batched (size : Nat) (items : List α) (batches : List (List α)) : Prop where
  flatten : batches.flatten = items
  nonempty : ∀ batch ∈ batches, batch ≠ []
  full : ∀ batch ∈ batches.dropLast, batch.length = size
  bounded : ∀ batch ∈ batches, batch.length ≤ size

@[simp] theorem inBatches_nil : inBatches size ([] : List α) = [] := by
  rw [inBatches]
  rfl

theorem inBatches_append (positive : 0 < size) (whole : batch.length = size) (items : List α) :
    inBatches size (batch ++ items) = batch :: inBatches size items := by
  have there : batch ≠ [] := by
    rintro rfl
    exact absurd whole (Nat.ne_of_lt positive)
  rw [inBatches, if_neg (by simp [there, Nat.ne_of_gt positive]), List.take_left' whole,
    List.drop_left' whole]

theorem inBatches_short (there : batch ≠ []) (short : batch.length ≤ size) :
    inBatches size batch = [batch] := by
  have positive : 0 < size := Nat.lt_of_lt_of_le (List.length_pos_iff.mpr there) short
  rw [inBatches, if_neg (by simp [there, Nat.ne_of_gt positive]), List.take_of_length_le short,
    List.drop_of_length_le short, inBatches_nil]

private theorem mem_dropLast_cons {a b : α} {rest : List α} (member : a ∈ (b :: rest).dropLast) :
    (a = b ∧ rest ≠ []) ∨ a ∈ rest.dropLast := by
  cases rest with
  | nil => cases member
  | cons next more =>
    rw [List.dropLast_cons_cons] at member
    exact (List.mem_cons.mp member).imp_left fun same => ⟨same, nofun⟩

theorem batched_inBatches (positive : 0 < size) (items : List α) :
    Batched size items (inBatches size items) := by
  fun_induction inBatches size items with
  | case1 items nothing =>
    obtain rfl : items = [] := by simpa [Nat.ne_of_gt positive] using nothing
    exact ⟨rfl, nofun, nofun, nofun⟩
  | case2 items there rest =>
    have there : items ≠ [] := by
      simpa [Nat.ne_of_gt positive] using there
    refine ⟨?_, ?_, ?_, ?_⟩
    · rw [List.flatten_cons, rest.flatten, List.take_append_drop]
    · refine List.forall_mem_cons.mpr ⟨?_, rest.nonempty⟩
      simp [there, Nat.ne_of_gt positive]
    · intro batch member
      rcases mem_dropLast_cons member with ⟨rfl, more⟩ | later
      · have longer : items.drop size ≠ [] := by
          intro nothing
          rw [nothing, inBatches_nil] at more
          exact more rfl
        exact List.length_take_of_le (Nat.le_of_lt (by simpa using longer))
      · exact rest.full batch later
    · exact List.forall_mem_cons.mpr ⟨List.length_take_le .., rest.bounded⟩

end

namespace Target

variable {t : Target} {failure : Option Error} {rows : List Feed.Row} {replies : Replies}
  {parts before : List (List BulkItem)} {asked : List Request}

/-- The documents of the rows with an indicator, as they are to be written. -/
def items (t : Target) (rows : List Feed.Row) : List BulkItem :=
  (rows.filterMap (Feed.indicator? · t.column)).map fun value => ⟨none, t.document value⟩

/-- The request that writes a batch. -/
def request (t : Target) (batch : List BulkItem) : Request := .store (.bulkIndex t.index batch)

/-- The batches that the rows are written in. -/
def batches (t : Target) (rows : List Feed.Row) : List (List BulkItem) :=
  inBatches t.batchSize (t.items rows)

/-- The batches that are full. -/
def fullOf (t : Target) (batches : List (List BulkItem)) : List (List BulkItem) :=
  batches.filter (·.length = t.batchSize)

/-- The batches that are to be written for rows: if the rows break off, only those that are full. -/
def due (t : Target) (failure : Option Error) (batches : List (List BulkItem)) :
    List (List BulkItem) :=
  match failure with
  | some _ => t.fullOf batches
  | none => batches

/-- Writes batches one after the other. -/
def writeAll (t : Target) : List (List BulkItem) → Program Unit
  | [] => done ()
  | batch :: rest => (t.write batch.toArray).bind fun _ => t.writeAll rest

/-- What populating comes to when everything that is due has been written. -/
def ending (failure : Option Error) (counts : RowCounts) : Except Failure RowCounts :=
  match failure with
  | some e => .error (.error e)
  | none => .ok counts

/-- How many of the rows have no indicator. -/
def blanks (t : Target) (rows : List Feed.Row) : Nat :=
  rows.countP fun row => (Feed.indicator? row t.column).isNone

theorem length_items_add_blanks (t : Target) (rows : List Feed.Row) :
    (t.items rows).length + t.blanks rows = rows.length := by
  rw [items, List.length_map, List.length_filterMap_eq_countP,
    List.length_eq_countP_add_countP fun row => (Feed.indicator? row t.column).isSome]
  simp [blanks, -Option.isNone_iff_eq_none]

theorem items_cons_of_none {row : Feed.Row} (cell : Feed.indicator? row t.column = none)
    (rows : List Feed.Row) :
    t.items (row :: rows) = t.items rows ∧ t.blanks (row :: rows) = t.blanks rows + 1 := by
  simp [items, blanks, cell]

theorem items_cons_of_some {row : Feed.Row} {value : String}
    (cell : Feed.indicator? row t.column = some value) (rows : List Feed.Row) :
    t.items (row :: rows) = ⟨none, t.document value⟩ :: t.items rows ∧
      t.blanks (row :: rows) = t.blanks rows := by
  simp [items, blanks, cell]

private theorem due_cons {batch : List BulkItem} (whole : batch.length = t.batchSize)
    (failure : Option Error) (batches : List (List BulkItem)) :
    t.due failure (batch :: batches) = batch :: t.due failure batches := by
  cases failure with
  | some e => simp [due, fullOf, whole]
  | none => rfl

private theorem writeAll_singleton (batch : Array BulkItem) :
    t.writeAll [batch.toList] = t.write batch := Program.bind_pure _

private theorem populateFrom_nil {batch : Array BulkItem} (begun : batch.size < t.batchSize)
    (failure : Option Error) (counts : RowCounts) :
    t.populateFrom failure batch counts [] =
      (t.writeAll (t.due failure (inBatches t.batchSize batch.toList))).bind fun _ =>
        ofResult (ending failure { counts with indexed := counts.indexed + batch.size }) := by
  by_cases nothing : batch = #[]
  · subst nothing
    cases failure <;> simp [populateFrom, finish, due, fullOf, writeAll, ending, ofResult,
      Program.error, pure]
  · have there : batch.toList ≠ [] := by simpa using nothing
    rw [inBatches_short there (Nat.le_of_lt (by simpa using begun))]
    cases failure with
    | some e => simp [populateFrom, due, fullOf, Nat.ne_of_lt begun, writeAll, ending, ofResult,
        Program.error]
    | none =>
      have notEmpty : ¬batch.isEmpty = true := by simpa using nothing
      rw [populateFrom, finish, if_neg notEmpty, due, writeAll_singleton]
      rfl

/-- Populating writes the batches that are due, and ends as the rows do. The invariant is that less than
a batch has been begun. -/
theorem populateFrom_eq {batch : Array BulkItem} (begun : batch.size < t.batchSize)
    (failure : Option Error) (counts : RowCounts) (rows : List Feed.Row) :
    t.populateFrom failure batch counts rows =
      (t.writeAll (t.due failure (inBatches t.batchSize (batch.toList ++ t.items rows)))).bind
        fun _ => ofResult (ending failure ⟨counts.indexed + batch.size + (t.items rows).length,
          counts.skipped + t.blanks rows⟩) := by
  induction rows generalizing batch counts with
  | nil => simpa [items, blanks] using populateFrom_nil begun failure counts
  | cons row rest ih =>
    unfold populateFrom
    cases cell : Feed.indicator? row t.column with
    | none =>
      obtain ⟨skips, counted⟩ := items_cons_of_none cell rest
      simp only [ih begun, skips, counted, Nat.add_assoc, Nat.add_comm 1]
    | some value =>
      obtain ⟨adds, counted⟩ := items_cons_of_some cell rest
      have pushed : batch.toList ++ t.items (row :: rest) =
          (batch.push ⟨none, t.document value⟩).toList ++ t.items rest := by
        rw [adds, Array.toList_push, List.append_assoc, List.singleton_append]
      have total : counts.indexed + batch.size + (t.items (row :: rest)).length =
          counts.indexed + (batch.push ⟨none, t.document value⟩).size + (t.items rest).length := by
        rw [adds, Array.size_push, List.length_cons]
        omega
      have reached : (batch.push ⟨none, t.document value⟩).size ≤ t.batchSize := by
        rw [Array.size_push]
        exact begun
      dsimp only
      rw [pushed, total, counted]
      generalize batch.push ⟨none, t.document value⟩ = batch at reached
      split
      · rename_i short
        exact ih short counts
      · rename_i long
        have whole : batch.toList.length = t.batchSize := Nat.le_antisymm reached (Nat.not_lt.mp long)
        have positive : 0 < t.batchSize := Nat.lt_of_le_of_lt (Nat.zero_le _) begun
        rw [inBatches_append positive whole, due_cons whole, writeAll, Program.bind_assoc]
        simp only [ih (show (#[] : Array BulkItem).size < t.batchSize from positive)]
        rfl

/-- Each of the batches is accepted when those before it have been asked for. -/
def Accepts (t : Target) (replies : Replies) (batches : List (List BulkItem)) : Prop :=
  ∀ before batch, before ++ [batch] <+: batches →
    replies (before.map t.request) (t.request batch) = .ok ()

private theorem run_write {batch : List BulkItem} {outcome : Except Store.Error Unit}
    (answered : replies asked (t.request batch) = outcome) (next : Unit → Program RowCounts) :
    ((t.write batch.toArray).bind next).run replies.answer asked =
      ((ofStore outcome).bind next).run replies.answer (asked ++ [t.request batch]) := by
  subst answered
  rfl

/-- Batches that are accepted are asked for one after the other, and then the rest is written. -/
private theorem run_writeAll (before : List (List BulkItem))
    (accepts : t.Accepts replies (before ++ parts))
    (rest : List (List BulkItem)) (next : Unit → Program RowCounts) :
    ((t.writeAll (parts ++ rest)).bind next).run replies.answer (before.map t.request) =
      ((t.writeAll rest).bind next).run replies.answer ((before ++ parts).map t.request) := by
  induction parts generalizing before with
  | nil => rw [List.append_nil, List.nil_append]
  | cons batch more ih =>
    have accepted := accepts before batch ⟨more, by simp⟩
    have later := ih (before ++ [batch]) (by simpa using accepts)
    rw [List.cons_append, writeAll, Program.bind_assoc, run_write accepted, ← List.map_singleton,
      ← List.map_append]
    simpa [ofStore] using later

private theorem outcome_populate (positive : 0 < t.batchSize) (roomy : t.batchSize ≤ maxBatch)
    (failure : Option Error) (rows : List Feed.Row) (replies : Replies) :
    (t.populate rows failure).outcome replies =
      ((t.writeAll (t.due failure (t.batches rows))).bind fun _ =>
        ofResult (ending failure ⟨(t.items rows).length, t.blanks rows⟩)).run replies.answer [] := by
  rw [outcome, populate, if_neg (Nat.not_lt_of_le roomy),
    populateFrom_eq (show (#[] : Array BulkItem).size < t.batchSize from positive)]
  simp [batches]

/-- If everything that is due is accepted, it is all that is asked for. -/
theorem outcome_accepted (positive : 0 < t.batchSize) (roomy : t.batchSize ≤ maxBatch)
    (accepts : t.Accepts replies (t.due failure (t.batches rows))) :
    (t.populate rows failure).outcome replies =
      (ending failure ⟨(t.items rows).length, t.blanks rows⟩,
        (t.due failure (t.batches rows)).map t.request) := by
  have written := run_writeAll [] accepts [] fun _ =>
    ofResult (ending failure ⟨(t.items rows).length, t.blanks rows⟩)
  rw [List.append_nil] at written
  rw [outcome_populate positive roomy]
  exact written.trans (run_ofResult _ _)

/-- The first batch that is refused is the last one that is asked for. -/
theorem outcome_refused {batch : List BulkItem} {e : Store.Error} (positive : 0 < t.batchSize)
    (roomy : t.batchSize ≤ maxBatch)
    (part : before ++ [batch] <+: t.due failure (t.batches rows))
    (accepts : t.Accepts replies before)
    (refused : replies (before.map t.request) (t.request batch) = .error e) :
    (t.populate rows failure).outcome replies =
      (.error (.error (.store e)), (before ++ [batch]).map t.request) := by
  obtain ⟨rest, due⟩ := part
  rw [outcome_populate positive roomy, ← due, List.append_assoc]
  refine (run_writeAll [] accepts _ _).trans ?_
  rw [List.nil_append, List.singleton_append, writeAll, Program.bind_assoc, run_write refused]
  simp [ofStore, Program.error, run]

private theorem full_before {batch : List BulkItem} (positive : 0 < t.batchSize)
    (part : before ++ [batch] <+: t.due failure (t.batches rows)) :
    ∀ earlier ∈ before, earlier.length = t.batchSize := by
  intro earlier member
  cases failure with
  | some e =>
    have due : earlier ∈ t.fullOf (t.batches rows) :=
      part.subset (List.mem_append_left _ member)
    exact of_decide_eq_true (List.mem_filter.mp due).2
  | none =>
    obtain ⟨rest, all⟩ := part
    refine (batched_inBatches positive (t.items rows)).full earlier ?_
    rw [← batches, ← show _ = t.batches rows from all, List.append_assoc,
      List.dropLast_append_of_ne_nil (by simp)]
    exact List.mem_append_left _ member

/-- Where there is no room for a whole batch nothing is asked for. -/
theorem outcome_crowded (crowded : maxBatch < t.batchSize) (rows : List Feed.Row)
    (failure : Option Error) (replies : Replies) :
    (t.populate rows failure).outcome replies = (.error (.fault .capacityOverflow), []) := by
  unfold populate
  rw [if_pos crowded]
  rfl

/-- The documents of rows are written in batches in the order of the rows, all of them full but perhaps
the last one, and all that has been written is counted. If the rows break off, only the full batches are
written. A batch that is refused is the last thing that is asked for, and those before it are full. All
this needs room for a whole batch; where there is none, no row is looked at. -/
theorem populate_batches (positive : 0 < t.batchSize) (rows : List Feed.Row) (replies : Replies) :
    Batched t.batchSize (t.items rows) (t.batches rows) ∧
      (t.batchSize ≤ maxBatch →
        (t.Accepts replies (t.batches rows) → ∃ counts,
          (t.populate rows none).outcome replies = (.ok counts, (t.batches rows).map t.request) ∧
            counts.indexed = ((t.batches rows).map List.length).sum ∧
              counts.indexed + counts.skipped = rows.length) ∧
        (∀ e, t.Accepts replies (t.fullOf (t.batches rows)) →
          (t.populate rows (some e)).outcome replies =
            (.error (.error e), (t.fullOf (t.batches rows)).map t.request)) ∧
        ∀ failure before batch e, before ++ [batch] <+: t.due failure (t.batches rows) →
          t.Accepts replies before →
            replies (before.map t.request) (t.request batch) = .error e →
              (t.populate rows failure).outcome replies =
                  (.error (.error (.store e)), (before ++ [batch]).map t.request) ∧
                ∀ earlier ∈ before, earlier.length = t.batchSize) ∧
      (maxBatch < t.batchSize → ∀ failure,
        (t.populate rows failure).outcome replies = (.error (.fault .capacityOverflow), [])) := by
  have batched := batched_inBatches positive (t.items rows)
  refine ⟨batched, fun roomy => ⟨?_, ?_, ?_⟩, fun crowded failure => ?_⟩
  · intro (accepts : t.Accepts replies (t.due none (t.batches rows)))
    refine ⟨_, outcome_accepted positive roomy accepts, ?_, t.length_items_add_blanks rows⟩
    rw [← List.length_flatten, batches, batched.flatten]
  · intro e (accepts : t.Accepts replies (t.due (some e) (t.batches rows)))
    exact outcome_accepted positive roomy accepts
  · intro failure before batch e part accepts refused
    exact ⟨outcome_refused positive roomy part accepts refused, full_before positive part⟩
  · exact outcome_crowded crowded rows failure replies

private def pairs : Target := ⟨"feed-x-1", .string, 0, 2⟩

private def fourRows : List Feed.Row := [["1.1.1.1"], ["", "blank"], ["2.2.2.2"], ["3.3.3.3"]]

private def pair : List BulkItem := [⟨none, .string "1.1.1.1"⟩, ⟨none, .string "2.2.2.2"⟩]

private def single : List BulkItem := [⟨none, .string "3.3.3.3"⟩]

private theorem batches_fourRows : pairs.batches fourRows = [pair, single] := by
  have whole : pair.length = 2 := rfl
  show inBatches 2 (pair ++ single) = _
  rw [inBatches_append (by decide) whole, inBatches_short (show single ≠ [] from nofun) (by decide)]

/-- A store that accepts so many writes. -/
private def accepting (writes : Nat) : Replies
  | asked, .store (.bulkIndex _ _) =>
    if asked.length < writes then .ok () else .error (.backend "disk full")
  | _, r => (World.answer r {}).1

private theorem accepts_accepting {writes : Nat} (few : parts.length ≤ writes) :
    t.Accepts (accepting writes) parts := by
  intro before batch part
  have shorter := part.length_le
  rw [List.length_append, List.length_singleton] at shorter
  exact if_pos (by rw [List.length_map]; omega)

/-- Everything is accepted, or the rows break off, or the second batch is refused. -/
theorem populate_batches_pairs : 0 < pairs.batchSize ∧
    (pairs.populate fourRows none).outcome (accepting 2) =
        (.ok ⟨3, 1⟩, [pairs.request pair, pairs.request single]) ∧
      (pairs.populate fourRows (some (.fetch "cut off"))).outcome (accepting 2) =
        (.error (.error (.fetch "cut off")), [pairs.request pair]) ∧
      (pairs.populate fourRows none).outcome (accepting 1) =
        (.error (.error (.store (.backend "disk full"))),
          [pairs.request pair, pairs.request single]) := by
  have positive : 0 < pairs.batchSize := by decide
  have roomy : pairs.batchSize ≤ maxBatch := by decide
  have full : pairs.fullOf [pair, single] = [pair] := rfl
  obtain ⟨-, room, -⟩ := populate_batches positive fourRows (accepting 2)
  obtain ⟨written, cut, -⟩ := room roomy
  obtain ⟨-, room, -⟩ := populate_batches positive fourRows (accepting 1)
  obtain ⟨-, -, refused⟩ := room roomy
  rw [batches_fourRows] at written cut
  refine ⟨positive, ?_, ?_, ?_⟩
  · obtain ⟨⟨indexed, skipped⟩, ended, total, all⟩ := written (accepts_accepting (by decide))
    obtain rfl : indexed = 3 := total
    obtain rfl : skipped = 1 := Nat.add_left_cancel all
    exact ended
  · rw [full] at cut
    exact cut _ (accepts_accepting (by decide))
  · have part : [pair] ++ [single] <+: pairs.due none (pairs.batches fourRows) := by
      rw [batches_fourRows]
      exact List.prefix_refl _
    exact (refused none [pair] single _ part (accepts_accepting (by decide)) rfl).1

private def hoard : Target := { pairs with batchSize := 18446744073709551615 }

/-- Everything would be accepted, but there is no room for a batch of this size. -/
theorem populate_hoard : 0 < hoard.batchSize ∧
    hoard.Accepts (accepting 1) (hoard.batches fourRows) ∧
      (hoard.populate fourRows none).outcome (accepting 1) =
        (.error (.fault .capacityOverflow), []) := by
  have few : (hoard.batches fourRows).length ≤ 1 := by
    show (inBatches hoard.batchSize (pair ++ single)).length ≤ 1
    rw [inBatches_short (show pair ++ single ≠ [] from nofun) (by decide)]
    exact Nat.le_refl 1
  exact ⟨by decide, accepts_accepting few, outcome_crowded (by decide) fourRows none _⟩

end Target

end IndicatorFeeds.Rotation

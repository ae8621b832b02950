import IndicatorFeeds.Proofs.Json.Texts

/-!
Values that come back whole. A value whose objects have their keys in order, and which is not nested
too deep, is what is read from its text. That text has no control characters, so it never leaves the
line it stands on.
-/

namespace IndicatorFeeds.Json

/-- A value whose objects have their keys in order, at most so many containers deep. -/
inductive Value.Whole : Nat → Value → Prop
  | null {depth : Nat} : Whole depth .null
  | bool {depth : Nat} (b : Bool) : Whole depth (.bool b)
  | number {depth : Nat} (n : Number) : Whole depth (.number n)
  | string {depth : Nat} (s : String) : Whole depth (.string s)
  | array {depth : Nat} {items : List Value} (each : ∀ item ∈ items, Whole depth item) :
      Whole (depth + 1) (.array items)
  | object {depth : Nat} {fields : List (String × Value)} (ascending : Ascending fields)
      (each : ∀ field ∈ fields, Whole depth field.2) : Whole (depth + 1) (.object fields)

namespace Tree

/-- A tree whose leaves all have a value, at most so many containers deep: no number is out of range,
and no string and no name of a field has half of a surrogate pair. -/
inductive Readable : Nat → Tree → Prop
  | null {depth : Nat} : Readable depth .null
  | bool {depth : Nat} (b : Bool) : Readable depth (.bool b)
  | number {depth : Nat} (n : Number) : Readable depth (.number (some n))
  | string {depth : Nat} (s : String) : Readable depth (.string (some s))
  | array {depth : Nat} {items : List Tree} (each : ∀ item ∈ items, Readable depth item) :
      Readable (depth + 1) (.array items)
  | object {depth : Nat} {fields : List (Option String × Tree)}
      (named : ∀ field ∈ fields, field.1.isSome) (each : ∀ field ∈ fields, Readable depth field.2) :
      Readable (depth + 1) (.object fields)

private theorem isSome_items?_iff {depth : Nat} {items : List Tree} :
    (items? depth items).isSome ↔ ∀ item ∈ items, (value? depth item).isSome := by
  induction items with
  | nil => simp [items?]
  | cons item rest ih =>
    rw [List.forall_mem_cons, ← ih, items?]
    cases value? depth item <;> cases items? depth rest <;> simp

private theorem isSome_fields?_iff {depth : Nat} {fields : List (Option String × Tree)} :
    (fields? depth fields).isSome ↔
      (∀ field ∈ fields, field.1.isSome) ∧ ∀ field ∈ fields, (value? depth field.2).isSome := by
  induction fields with
  | nil => simp [fields?]
  | cons field rest ih =>
    obtain ⟨key, tree⟩ := field
    rw [List.forall_mem_cons, List.forall_mem_cons, and_and_and_comm, ← ih, fields?]
    cases key <;> cases value? depth tree <;> cases fields? depth rest <;> simp

theorem isSome_value?_iff {depth : Nat} {t : Tree} : (t.value? depth).isSome ↔ t.Readable depth := by
  constructor
  · intro read
    induction depth using Nat.strong_induction_on generalizing t with
    | _ depth ih =>
      cases t with
      | null => exact .null
      | bool b => exact .bool b
      | number n =>
        obtain ⟨n, rfl⟩ := Option.isSome_iff_exists.mp (by simpa [value?] using read)
        exact .number n
      | string s =>
        obtain ⟨s, rfl⟩ := Option.isSome_iff_exists.mp (by simpa [value?] using read)
        exact .string s
      | array items =>
        cases depth with
        | zero => simp [value?] at read
        | succ depth =>
          have each : (items? depth items).isSome := by simpa [value?] using read
          have each := isSome_items?_iff.mp each
          exact .array fun item member => ih depth (Nat.lt_succ_self _) (each item member)
      | object fields =>
        cases depth with
        | zero => simp [value?] at read
        | succ depth =>
          have each : (fields? depth fields).isSome := by simpa [value?] using read
          obtain ⟨named, each⟩ := isSome_fields?_iff.mp each
          exact .object named fun field member => ih depth (Nat.lt_succ_self _) (each field member)
  · intro readable
    induction readable with
    | null => rfl
    | bool b => rfl
    | number n => rfl
    | string s => rfl
    | array _ each => simpa [value?] using isSome_items?_iff.mpr each
    | object named _ each => simpa [value?] using isSome_fields?_iff.mpr ⟨named, each⟩

end Tree

namespace Value

variable {depth : Nat}

private theorem items?_ofItems {items : List Value}
    (each : ∀ item ∈ items, Tree.value? depth (.ofValue item) = some item) :
    Tree.items? depth (Tree.ofItems items) = some items := by
  induction items with
  | nil => rfl
  | cons item rest ih =>
    have ⟨first, others⟩ := List.forall_mem_cons.mp each
    simp [Tree.ofItems, Tree.items?, first, ih others]

private theorem fields?_ofFields {fields : List (String × Value)}
    (each : ∀ field ∈ fields, Tree.value? depth (.ofValue field.2) = some field.2) :
    Tree.fields? depth (Tree.ofFields fields) = some fields := by
  induction fields with
  | nil => rfl
  | cons field rest ih =>
    have ⟨first, others⟩ := List.forall_mem_cons.mp each
    simp [Tree.ofFields, Tree.fields?, first, ih others]

theorem Whole.value?_ofValue {v : Value} (whole : Whole depth v) :
    Tree.value? depth (.ofValue v) = some v := by
  induction whole with
  | null => rfl
  | bool b => rfl
  | number n => rfl
  | string s => rfl
  | array _ each => simp [Tree.ofValue, Tree.value?, items?_ofItems each]
  | object ascending _ each =>
    simp [Tree.ofValue, Tree.value?, fields?_ofFields each, ofFields_of_ascending ascending]

theorem Whole.ofFields {fields : List (String × Value)}
    (each : ∀ field ∈ fields, Whole depth field.2) : Whole (depth + 1) (.ofFields fields) :=
  .object (ascending_insertFields List.Pairwise.nil fields) fun field member =>
    (mem_insertFields member).elim nofun (each field)

/-- A whole value without doubles is what is read from its text. -/
theorem Whole.parse?_render {v : Value} (whole : Whole Tree.maxDepth v) (exact : v.Exact) :
    parse? v.render = some v := by
  rw [parse?, render, String.toList_ofList, exact.parse?_print]
  exact whole.value?_ofValue

end Value

/-- A character that may stand in a text as it is: no control below the space. -/
def Plain (c : Char) : Prop := 0x20 ≤ c.toNat

instance (c : Char) : Decidable (Plain c) := inferInstanceAs (Decidable (_ ≤ _))

private theorem plain_of_all {cs : List Char} (all : cs.all (fun c => decide (Plain c)) = true) :
    ∀ c ∈ cs, Plain c := fun c member => of_decide_eq_true (List.all_eq_true.mp all c member)

private theorem plain_of_mem_escapeChar {c d : Char} (member : d ∈ escapeChar c) : Plain d := by
  by_cases quote : c = '"'
  · have both : (escapeChar '"').all (fun c => decide (Plain c)) = true := rfl
    exact plain_of_all both d (quote ▸ member)
  by_cases backslash : c = '\\'
  · have both : (escapeChar '\\').all (fun c => decide (Plain c)) = true := rfl
    exact plain_of_all both d (backslash ▸ member)
  by_cases control : c.toNat < 0x20
  · have each : ∀ n : Fin 0x20,
        (escapeChar (Char.ofNat n)).all (fun c => decide (Plain c)) = true := by decide
    exact plain_of_all (each ⟨c.toNat, control⟩) d ((Char.ofNat_toNat c).symm ▸ member)
  · have same : d = c := by simpa [escapeChar, quote, backslash, control] using member
    exact same ▸ Nat.not_lt.mp control

private theorem plain_enclosed {first last : Char} {cs : List Char} (opens : Plain first)
    (closes : Plain last) (inside : ∀ c ∈ cs, Plain c) : ∀ c ∈ first :: cs ++ [last], Plain c := by
  rw [List.cons_append]
  exact List.forall_mem_cons.mpr ⟨opens,
    List.forall_mem_append.mpr ⟨inside, List.forall_mem_singleton.mpr closes⟩⟩

private theorem plain_printString (s : String) : ∀ c ∈ printString s, Plain c := by
  refine plain_enclosed (by decide) (by decide) fun c member => ?_
  obtain ⟨_, _, escaped⟩ := List.mem_flatMap.mp member
  exact plain_of_mem_escapeChar escaped

private theorem plain_printItems {items : List Value}
    (each : ∀ item ∈ items, ∀ c ∈ item.print, Plain c) : ∀ c ∈ printItems items, Plain c := by
  induction items with
  | nil => exact nofun
  | cons item more ih =>
    have ⟨first, others⟩ := List.forall_mem_cons.mp each
    cases more with
    | nil => simpa only [printItems] using first
    | cons next more =>
      rw [printItems_cons_cons]
      exact List.forall_mem_append.mpr ⟨first, List.forall_mem_cons.mpr ⟨by decide, ih others⟩⟩

private theorem plain_printFields {fields : List (String × Value)}
    (each : ∀ field ∈ fields, ∀ c ∈ field.2.print, Plain c) :
    ∀ c ∈ printFields fields, Plain c := by
  induction fields with
  | nil => exact nofun
  | cons field more ih =>
    have ⟨first, others⟩ := List.forall_mem_cons.mp each
    have written : ∀ c ∈ printString field.1 ++ ':' :: field.2.print, Plain c :=
      List.forall_mem_append.mpr
        ⟨plain_printString field.1, List.forall_mem_cons.mpr ⟨by decide, first⟩⟩
    cases more with
    | nil => simpa only [printFields] using written
    | cons next more =>
      rw [printFields_cons_cons]
      exact List.forall_mem_append.mpr ⟨written, List.forall_mem_cons.mpr ⟨by decide, ih others⟩⟩

/-- No control character stands in the text of a value. -/
theorem Value.Exact.plain_print {v : Value} (exact : v.Exact) : ∀ c ∈ v.print, Plain c := by
  induction exact with
  | null => exact plain_of_all rfl
  | bool b => cases b <;> exact plain_of_all rfl
  | int word =>
    intro c member
    rcases mem_printNumber member with rfl | digit
    · decide
    · have bounds := Char.isDigit_iff_toNat.mp digit
      exact Nat.le_trans (by decide) bounds.1
  | string s => exact plain_printString s
  | array _ each => exact plain_enclosed (by decide) (by decide) (plain_printItems each)
  | object _ each => exact plain_enclosed (by decide) (by decide) (plain_printFields each)

theorem Value.Exact.lineFeed_not_mem_print {v : Value} (exact : v.Exact) : '\n' ∉ v.print :=
  fun member => absurd (exact.plain_print _ member) (by decide)

end IndicatorFeeds.Json

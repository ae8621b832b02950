import Mathlib.Tactic.IntervalCases
import IndicatorFeeds.Proofs.Json.Fields
import IndicatorFeeds.Proofs.Json.Integers

namespace IndicatorFeeds.Json

variable {rest : List Char}

/-- A character of a string stands for itself, or for what is read after a backslash. -/
private theorem escapeChar_cases (c : Char) :
    (escapeChar c = [c] ∧ c ≠ '"' ∧ c ≠ '\\' ∧ ¬ c.toNat < 0x20) ∨
      ∃ tail, escapeChar c = '\\' :: tail ∧
        ∀ rest, escapeAt (tail ++ rest) = some (some c, tail.length) := by
  by_cases quote : c = '"'
  · subst quote
    exact .inr ⟨['"'], rfl, fun _ => rfl⟩
  by_cases backslash : c = '\\'
  · subst backslash
    exact .inr ⟨['\\'], rfl, fun _ => rfl⟩
  by_cases control : c.toNat < 0x20
  · right
    have named := Char.ofNat_toNat c
    generalize c.toNat = n at control named
    subst named
    interval_cases n <;> exact ⟨_, rfl, fun _ => rfl⟩
  · exact .inl ⟨by simp [escapeChar, quote, backslash, control], quote, backslash, control⟩

private theorem stringRest_escapeChar (done : List Char) (c : Char) (rest : List Char) :
    stringRest done true (escapeChar c ++ rest) = stringRest (c :: done) true rest := by
  rcases escapeChar_cases c with ⟨plain, quote, backslash, control⟩ | ⟨tail, escaped, read⟩
  · rw [plain, List.singleton_append, stringRest]
    simp [quote, backslash, control]
  · rw [escaped, List.cons_append, stringRest]
    simp [read]

theorem stringRest_printString (s : String) (rest : List Char) :
    stringRest [] true (s.toList.flatMap escapeChar ++ '"' :: rest) = some (some s, rest) := by
  have scanned (done cs : List Char) :
      stringRest done true (cs.flatMap escapeChar ++ '"' :: rest) =
        some (some (String.ofList (done.reverse ++ cs)), rest) := by
    induction cs generalizing done with
    | nil => simp [stringRest]
    | cons c cs ih => simp [List.flatMap_cons, List.append_assoc, stringRest_escapeChar, ih]
  simpa using scanned [] s.toList

/-- A value without doubles, whose integers are words. -/
inductive Value.Exact : Value → Prop
  | null : Exact .null
  | bool (b : Bool) : Exact (.bool b)
  | int {i : Int} (word : IsWord i) : Exact (.number (.int i))
  | string (s : String) : Exact (.string s)
  | array {items : List Value} (each : ∀ item ∈ items, Exact item) : Exact (.array items)
  | object {fields : List (String × Value)} (each : ∀ field ∈ fields, Exact field.2) :
      Exact (.object fields)

/-- The text of the value is read back wherever it stands: every step of the reader takes a
character, so a step for each of them is enough. -/
def Value.ReadsBack (v : Value) : Prop :=
  ∀ fuel rest, v.print.length ≤ fuel → Closes rest →
    readValue fuel (v.print ++ rest) = some (.ofValue v, rest)

@[simp] private theorem skipGap_cons {c : Char} (solid : isGap c = false) (rest : List Char) :
    skipGap (c :: rest) = c :: rest := by
  simp [skipGap, solid]

@[simp] theorem printItems_cons_cons (item next : Value) (more : List Value) :
    printItems (item :: next :: more) = item.print ++ ',' :: printItems (next :: more) := by
  rw [printItems]
  simp

@[simp] theorem printFields_cons_cons (field next : String × Value)
    (more : List (String × Value)) :
    printFields (field :: next :: more) =
      printString field.1 ++ ':' :: field.2.print ++ ',' :: printFields (next :: more) := by
  rw [printFields]
  simp

private theorem ne_of_start {c d : Char} (start : c = '-' ∨ c.isDigit = true)
    (other : d ≠ '-' ∧ d.isDigit = false) : c ≠ d := by
  rintro rfl
  rcases start with rfl | digit
  · exact other.1 rfl
  · exact absurd (other.2.symm.trans digit) (by decide)

private theorem isGap_of_start {c : Char} (start : c = '-' ∨ c.isDigit = true) :
    isGap c = false := by
  simp [isGap, ne_of_start start]

private theorem readValue_number {c : Char} (start : c = '-' ∨ c.isDigit = true) (fuel : Nat)
    (tail : List Char) : readValue (fuel + 1) (c :: tail) =
      (number? (c :: tail)).map fun (n, rest) => (.number n, rest) := by
  simp [readValue, isGap_of_start start, ne_of_start start]

private theorem readsBack_int {i : Int} (word : IsWord i) : Value.ReadsBack (.number (.int i)) := by
  intro fuel rest enough closes
  obtain ⟨c, tail, printed, start⟩ := printNumber_start i
  have read := number?_printNumber word closes
  simp only [Value.print] at enough ⊢
  rw [printed] at read enough ⊢
  obtain _ | fuel := fuel
  · cases enough
  · rw [List.cons_append, readValue_number start, ← List.cons_append, read]
    rfl

private theorem print_start {v : Value} (exact : v.Exact) :
    ∃ c tail, v.print = c :: tail ∧ isGap c = false ∧ c ≠ ']' := by
  cases exact with
  | null => exact ⟨_, _, rfl, by decide⟩
  | bool b => cases b <;> exact ⟨_, _, rfl, by decide⟩
  | int word =>
    obtain ⟨c, tail, printed, start⟩ := printNumber_start _
    exact ⟨c, tail, printed, isGap_of_start start, ne_of_start start (by decide)⟩
  | string s => exact ⟨_, _, rfl, by decide⟩
  | array each => exact ⟨_, _, rfl, by decide⟩
  | object each => exact ⟨_, _, rfl, by decide⟩

private theorem readItems_printItems {items : List Value} (each : ∀ item ∈ items, item.ReadsBack)
    (there : items ≠ []) (fuel : Nat) (enough : (printItems items).length + 1 ≤ fuel)
    (rest : List Char) :
    readItems fuel (printItems items ++ ']' :: rest) = some (Tree.ofItems items, rest) := by
  induction items generalizing fuel with
  | nil => exact absurd rfl there
  | cons item more ih =>
    have first := each item List.mem_cons_self
    obtain _ | fuel := fuel
    · cases enough
    cases more with
    | nil =>
      rw [printItems] at enough ⊢
      rw [readItems, first fuel _ (by omega) (by simp [Closes])]
      rfl
    | cons next more =>
      rw [printItems_cons_cons] at enough ⊢
      rw [List.length_append, List.length_cons] at enough
      have more := ih (fun item member => each item (List.mem_cons_of_mem _ member)) (by simp) fuel
        (by omega)
      rw [List.append_assoc, List.cons_append, readItems,
        first fuel _ (by omega) (by simp [Closes])]
      simp [isGap, more, Tree.ofItems]

private theorem readFields_printFields {fields : List (String × Value)}
    (each : ∀ field ∈ fields, field.2.ReadsBack) (there : fields ≠ []) (fuel : Nat)
    (enough : (printFields fields).length + 1 ≤ fuel) (rest : List Char) :
    readFields fuel (printFields fields ++ '}' :: rest) = some (Tree.ofFields fields, rest) := by
  induction fields generalizing fuel with
  | nil => exact absurd rfl there
  | cons field more ih =>
    obtain ⟨key, value⟩ := field
    have first := each _ List.mem_cons_self
    obtain _ | fuel := fuel
    · cases enough
    cases more with
    | nil =>
      rw [printFields, List.length_append, List.length_cons] at enough
      have read := first fuel ('}' :: rest) (by dsimp only; omega) (by simp [Closes])
      simp [printFields, printString, readFields, stringRest_printString, isGap, read,
        Tree.ofFields]
    | cons next more =>
      rw [printFields_cons_cons] at enough ⊢
      simp only [List.length_append, List.length_cons] at enough
      have read := first fuel (',' :: (printFields (next :: more) ++ '}' :: rest))
        (by dsimp only; omega) (by simp [Closes])
      have more := ih (fun field member => each field (List.mem_cons_of_mem _ member)) (by simp) fuel
        (by omega)
      simp [printString, readFields, stringRest_printString, isGap, read, more, Tree.ofFields]

private theorem readsBack_array {items : List Value} (exact : ∀ item ∈ items, item.Exact)
    (each : ∀ item ∈ items, item.ReadsBack) : Value.ReadsBack (.array items) := by
  intro fuel rest enough _
  rw [Value.print] at enough ⊢
  simp only [List.length_append, List.length_cons, List.length_nil] at enough
  obtain _ | fuel := fuel
  · cases enough
  cases items with
  | nil => simp [printItems, readValue, isGap, Tree.ofValue, Tree.ofItems]
  | cons item more =>
    have read := readItems_printItems each (by simp) fuel (by omega) rest
    obtain ⟨c, tail, printed, solid, opens⟩ := print_start (exact item List.mem_cons_self)
    have start : ∃ tail, printItems (item :: more) ++ ']' :: rest = c :: tail := by
      cases more with
      | nil => exact ⟨_, by rw [printItems, printed, List.cons_append]⟩
      | cons next more =>
        exact ⟨_, by rw [printItems_cons_cons, printed, List.cons_append, List.cons_append]⟩
    obtain ⟨tail, start⟩ := start
    rw [start] at read
    have bracket : skipGap ('[' :: c :: tail) = '[' :: c :: tail := by simp [isGap]
    simp [readValue, bracket, start, skipGap_cons solid, opens, read, Tree.ofValue]

private theorem readsBack_object {fields : List (String × Value)}
    (each : ∀ field ∈ fields, field.2.ReadsBack) : Value.ReadsBack (.object fields) := by
  intro fuel rest enough _
  rw [Value.print] at enough ⊢
  simp only [List.length_append, List.length_cons, List.length_nil] at enough
  obtain _ | fuel := fuel
  · cases enough
  cases fields with
  | nil => simp [printFields, readValue, isGap, Tree.ofValue, Tree.ofFields]
  | cons field more =>
    have read := readFields_printFields each (by simp) fuel (by omega) rest
    have start : ∃ tail, printFields (field :: more) ++ '}' :: rest = '"' :: tail := by
      cases more with
      | nil => exact ⟨_, by rw [printFields, printString]; rfl⟩
      | cons next more => exact ⟨_, by rw [printFields_cons_cons, printString]; rfl⟩
    obtain ⟨tail, start⟩ := start
    rw [start] at read
    simp [readValue, isGap, start, read, Tree.ofValue]

theorem Value.Exact.readsBack {v : Value} (exact : v.Exact) : v.ReadsBack := by
  induction exact with
  | null => 
    intro fuel rest enough _
    obtain _ | fuel := fuel
    · cases enough
    · rfl
  | bool b => 
    intro fuel rest enough _
    obtain _ | fuel := fuel
    · cases b <;> cases enough
    · cases b <;> rfl
  | int word => exact readsBack_int word
  | string s =>
    intro fuel rest enough _
    obtain _ | fuel := fuel
    · cases enough
    · simp [Value.print, printString, readValue, stringRest_printString, isGap, Tree.ofValue]
  | array exact each => exact readsBack_array exact each
  | object _ each => exact readsBack_object each

/-- The text of a value without doubles is the text of its tree. -/
theorem Value.Exact.parse?_print {v : Value} (exact : v.Exact) :
    Tree.parse? v.print = some (.ofValue v) := by
  have read := exact.readsBack (v.print.length + 1) [] (Nat.le_succ _) (by simp [Closes])
  rw [List.append_nil] at read
  simp [Tree.parse?, read, skipGap]

namespace Value

@[simp] theorem exact_bool (b : Bool) : Exact (.bool b) := .bool b

@[simp] theorem exact_string (s : String) : Exact (.string s) := .string s

theorem exact_nat {n : Nat} (fits : n < UInt64.size) : Exact (.nat n) :=
  .int ⟨by omega, by exact_mod_cast fits⟩

@[simp] theorem exact_toNat (n : UInt64) : Exact (.nat n.toNat) := exact_nat n.toNat_lt

@[simp] theorem exact_toNat32 (n : UInt32) : Exact (.nat n.toNat) :=
  exact_nat (Nat.lt_trans n.toNat_lt (by decide))

@[simp] theorem exact_strings (items : List String) : Exact (.strings items) := by
  refine .array fun item member => ?_
  obtain ⟨s, _, rfl⟩ := List.mem_map.mp member
  exact .string s

theorem exact_ofOption {encode : α → Value} (each : ∀ a, Exact (encode a)) (value : Option α) :
    Exact (.ofOption encode value) := by
  cases value with
  | none => exact .null
  | some a => exact each a

theorem exact_ofFields {fields : List (String × Value)} (each : ∀ field ∈ fields, Exact field.2) :
    Exact (.ofFields fields) :=
  .object fun field member => (mem_insertFields member).elim nofun (each field)

end Value

/-- A tree whose integers are words. -/
inductive Tree.Worded : Tree → Prop
  | null : Worded .null
  | bool (b : Bool) : Worded (.bool b)
  | number {n : Option Number} (word : ∀ i, n = some (.int i) → IsWord i) : Worded (.number n)
  | string (s : Option String) : Worded (.string s)
  | array {items : List Tree} (each : ∀ item ∈ items, Worded item) : Worded (.array items)
  | object {fields : List (Option String × Tree)} (each : ∀ field ∈ fields, Worded field.2) :
      Worded (.object fields)

private theorem worded_of_read (fuel : Nat) :
    (∀ cs t rest, readValue fuel cs = some (t, rest) → t.Worded) ∧
    (∀ cs items rest, readItems fuel cs = some (items, rest) → ∀ item ∈ items, item.Worded) ∧
    (∀ cs fields rest, readFields fuel cs = some (fields, rest) →
      ∀ field ∈ fields, field.2.Worded) := by
  induction fuel with
  | zero => exact ⟨nofun, nofun, nofun⟩
  | succ fuel ih =>
    obtain ⟨value, items, fields⟩ := ih
    refine ⟨fun cs t rest read => ?_, fun cs found rest read => ?_, fun cs found rest read => ?_⟩
    · unfold readValue at read
      split at read
      · obtain ⟨_, _, same⟩ := Option.map_eq_some_iff.mp read
        cases same
        exact .string _
      · split at read
        · cases read
          exact .array nofun
        · obtain ⟨_, inner, same⟩ := Option.map_eq_some_iff.mp read
          cases same
          exact .array (items _ _ _ inner)
      · split at read
        · cases read
          exact .object nofun
        · obtain ⟨_, inner, same⟩ := Option.map_eq_some_iff.mp read
          cases same
          exact .object (fields _ _ _ inner)
      · cases read
        exact .null
      · cases read
        exact .bool _
      · cases read
        exact .bool _
      · obtain ⟨⟨n, after⟩, inner, same⟩ := Option.map_eq_some_iff.mp read
        cases same
        exact .number fun i same => isWord_of_number? (same ▸ inner)
    · unfold readItems at read
      split at read
      · cases read
      · rename_i item after first
        split at read
        · cases read
          simpa using value _ _ _ first
        · obtain ⟨_, more, same⟩ := Option.map_eq_some_iff.mp read
          cases same
          exact List.forall_mem_cons.mpr ⟨value _ _ _ first, items _ _ _ more⟩
        · cases read
    · unfold readFields at read
      split at read
      · split at read
        · cases read
        · split at read
          · split at read
            · cases read
            · rename_i item after first
              split at read
              · cases read
                simpa using value _ _ _ first
              · obtain ⟨_, more, same⟩ := Option.map_eq_some_iff.mp read
                cases same
                exact List.forall_mem_cons.mpr ⟨value _ _ _ first, fields _ _ _ more⟩
              · cases read
          · cases read
      · cases read

theorem Tree.worded_of_parse? {cs : List Char} {t : Tree} (read : Tree.parse? cs = some t) :
    t.Worded := by
  unfold Tree.parse? at read
  split at read
  · rename_i found
    split at read
    · cases read
      exact (worded_of_read _).1 _ _ _ found
    · cases read
  · cases read

theorem Tree.Worded.natural {t : Tree} (worded : t.Worded) {n : Nat} (read : t.natural = some n) :
    n < UInt64.size := by
  cases worded with
  | number word =>
    unfold Tree.natural at read
    split at read
    · rename_i same
      cases same
      have bound := (word _ rfl).2
      split at read
      · cases read
        omega
      · cases read
    · cases read
  | _ => cases read

theorem Tree.Worded.find? {t : Tree} (worded : t.Worded) {names : List String} {f : Tree.Fields}
    (read : t.fields names = some f) {name : String} {field : Tree}
    (found : f.find? name = some field) : field.Worded := by
  unfold Tree.fields at read
  split at read
  · split at read
    · cases read
    · cases read
      cases worded with
      | object each =>
        obtain ⟨pair, first, rfl⟩ := Option.map_eq_some_iff.mp found
        exact each pair (List.mem_of_find?_eq_some first)
  · split at read
    · cases read
    · cases read
      cases worded with
      | array each =>
        obtain ⟨before, after, split, -⟩ := List.lookup_eq_some_iff.mp found
        have member : (name, field) ∈ names.zip _ := split ▸ List.mem_append_cons_self
        exact each field (List.of_mem_zip member).2
  · cases read

end IndicatorFeeds.Json

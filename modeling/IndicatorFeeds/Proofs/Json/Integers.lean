import Mathlib.Tactic.IntervalCases
import IndicatorFeeds.Json.Tree

namespace IndicatorFeeds.Json

/-- What may stand after a value inside of a text: nothing, or a mark that no value goes on with. -/
def Closes (rest : List Char) : Prop := ∀ c ∈ rest.head?, c = ',' ∨ c = ']' ∨ c = '}'

variable {rest : List Char}

/-- The integers that are written and read as such. -/
def IsWord (i : Int) : Prop := -0x8000000000000000 ≤ i ∧ i < UInt64.size

private theorem accumulate_digits (cs : List Char) (significand : Nat)
    (fits : Nat.ofDigitChars 10 cs significand < UInt64.size) :
    accumulate significand (digitsOf cs) = (Nat.ofDigitChars 10 cs significand, 0) := by
  induction cs generalizing significand with
  | nil => rfl
  | cons c cs ih =>
    have grows (start : Nat) : start ≤ Nat.ofDigitChars 10 cs start := by
      rw [Nat.ofDigitChars_eq_ofDigitChars_zero]
      exact Nat.le_trans (Nat.le_mul_of_pos_left _ (Nat.pow_pos (by decide))) (Nat.le_add_right ..)
    rw [Nat.ofDigitChars_cons, Nat.mul_comm] at fits ⊢
    have less := Nat.lt_of_le_of_lt (grows _) fits
    exact (if_pos less).trans (ih _ fits)

private theorem accumulate_lt {significand : Nat} (start : significand < UInt64.size)
    (digits : List Nat) : (accumulate significand digits).1 < UInt64.size := by
  induction digits generalizing significand with
  | nil => exact start
  | cons d rest ih =>
    unfold accumulate
    split
    · exact ih ‹_›
    · exact start

private theorem takeDigits_append {digits : List Char} (all : ∀ c ∈ digits, c.isDigit = true)
    (closes : Closes rest) : takeDigits (digits ++ rest) = (digits, rest) := by
  have stop : rest.takeWhile Char.isDigit = [] ∧ rest.dropWhile Char.isDigit = rest := by
    cases rest with
    | nil => exact ⟨rfl, rfl⟩
    | cons c tail => rcases closes c rfl with rfl | rfl | rfl <;> exact ⟨rfl, rfl⟩
  rw [takeDigits, List.takeWhile_append_of_pos all, List.dropWhile_append_of_pos all, stop.1,
    stop.2, List.append_nil]

private theorem first_toDigits (n : Nat) :
    ∃ c tail, Nat.toDigits 10 n = c :: tail ∧ (c = '0' → n = 0) := by
  induction n using Nat.strongRecOn with
  | ind n ih =>
    rw [Nat.toDigits_eq_if (by decide)]
    split
    · refine ⟨n.digitChar, [], rfl, fun zero => ?_⟩
      interval_cases n <;> first | rfl | exact absurd zero (by decide)
    · obtain ⟨c, tail, digits, zero⟩ := ih (n / 10) (by omega)
      refine ⟨c, tail ++ [(n % 10).digitChar], by rw [digits, List.cons_append], fun same => ?_⟩
      have := zero same
      omega

private theorem number?_toDigits (n : Nat) (closes : Closes rest) :
    number? (Nat.toDigits 10 n ++ rest) =
        some (numberValue false (Nat.toDigits 10 n) [] none, rest) ∧
      number? ('-' :: Nat.toDigits 10 n ++ rest) =
        some (numberValue true (Nat.toDigits 10 n) [] none, rest) := by
  have all : ∀ c ∈ Nat.toDigits 10 n, c.isDigit = true := fun _ =>
    Nat.isDigit_of_mem_toDigits (by decide) (by decide)
  have taken := takeDigits_append all closes
  obtain ⟨c, tail, digits, zero⟩ := first_toDigits n
  -- The reader refuses a zero that more digits follow.
  have leading : ∀ d more, c :: tail ≠ '0' :: d :: more := by
    rintro d more ⟨⟩
    rw [zero rfl] at digits
    exact absurd digits (by simp [Nat.toDigits, Nat.toDigitsCore])
  rw [digits] at all taken ⊢
  have unsigned : c ≠ '-' := by
    rintro rfl
    exact absurd (all '-' List.mem_cons_self) (by decide)
  rw [List.cons_append] at taken
  cases rest with
  | nil =>
    rw [List.append_nil] at taken
    constructor <;> simp [number?, unsigned, taken]
  | cons mark more =>
    rcases closes mark rfl with rfl | rfl | rfl <;>
      constructor <;> simp [number?, unsigned, taken]

private theorem printNumber_ofNat (n : Nat) :
    printNumber (.int (.ofNat n)) = Nat.toDigits 10 n := Nat.toList_repr

private theorem printNumber_negSucc (n : Nat) :
    printNumber (.int (.negSucc n)) = '-' :: Nat.toDigits 10 (n + 1) := by
  change ("-" ++ (n + 1).repr).toList = _
  rw [String.toList_append, Nat.toList_repr]
  rfl

theorem number?_printNumber {i : Int} (word : IsWord i) (closes : Closes rest) :
    number? (printNumber (.int i) ++ rest) = some (some (.int i), rest) := by
  have whole {n : Nat} (fits : n < UInt64.size) :
      accumulate 0 (digitsOf (Nat.toDigits 10 n)) = (n, 0) := by
    have value : Nat.ofDigitChars 10 (Nat.toDigits 10 n) 0 = n := Nat.ofDigitChars_ten_toDigits
    have read := accumulate_digits (Nat.toDigits 10 n) 0 (by rwa [value])
    rwa [value] at read
  cases i with
  | ofNat n =>
    have fits : n < UInt64.size := by have := word.2; simp at this; omega
    rw [printNumber_ofNat, (number?_toDigits n closes).1]
    simp [numberValue, whole fits]
  | negSucc n =>
    have bound : n + 1 ≤ 0x8000000000000000 := by have := word.1; omega
    have fits : n + 1 < UInt64.size := Nat.lt_of_le_of_lt bound (by decide)
    rw [printNumber_negSucc, (number?_toDigits (n + 1) closes).2]
    simp [numberValue, whole fits, bound, Int.negSucc_eq]

theorem printNumber_start (i : Int) :
    ∃ c tail, printNumber (.int i) = c :: tail ∧ (c = '-' ∨ c.isDigit = true) := by
  cases i with
  | ofNat n =>
    obtain ⟨c, tail, digits, -⟩ := first_toDigits n
    refine ⟨c, tail, (printNumber_ofNat n).trans digits, .inr ?_⟩
    exact Nat.isDigit_of_mem_toDigits (b := 10) (n := n) (by decide) (by decide)
      (digits ▸ List.mem_cons_self)
  | negSucc n => exact ⟨'-', _, printNumber_negSucc n, .inl rfl⟩

theorem mem_printNumber {i : Int} {c : Char} (member : c ∈ printNumber (.int i)) :
    c = '-' ∨ c.isDigit = true := by
  have digit {n : Nat} (member : c ∈ Nat.toDigits 10 n) : c.isDigit = true :=
    Nat.isDigit_of_mem_toDigits (by decide) (by decide) member
  cases i with
  | ofNat n => exact .inr (digit (printNumber_ofNat n ▸ member))
  | negSucc n =>
    rw [printNumber_negSucc] at member
    exact (List.mem_cons.mp member).imp_right digit

private theorem real?_ne_int {negative : Bool} {significand : Nat} {exponent i : Int} :
    real? negative significand exponent ≠ some (.int i) := by
  cases read : Binary64.ofDecimal negative significand exponent <;> simp [real?, read]

private theorem isWord_of_numberValue {negative : Bool} {whole fraction : List Char}
    {exponent : Option (Bool × List Char)} {i : Int}
    (value : numberValue negative whole fraction exponent = some (.int i)) : IsWord i := by
  have bound := accumulate_lt (by decide : 0 < UInt64.size) (digitsOf whole)
  unfold numberValue at value
  generalize accumulate 0 (digitsOf whole) = read at bound value
  obtain ⟨significand, extra⟩ := read
  dsimp only at bound value
  split at value
  · split at value
    · exact absurd value real?_ne_int
    · split at value
      · cases value
        exact ⟨by omega, by exact_mod_cast bound⟩
      · split at value
        · cases value
          exact ⟨by grind, by omega⟩
        · exact absurd value real?_ne_int
  · split at value
    · exact absurd value real?_ne_int
    · split at value
      · split at value <;> cases value
      · exact absurd value real?_ne_int

theorem isWord_of_number? {cs : List Char} {i : Int}
    (read : number? cs = some (some (.int i), rest)) : IsWord i := by
  unfold number? at read
  split at read
  grind [isWord_of_numberValue]

end IndicatorFeeds.Json

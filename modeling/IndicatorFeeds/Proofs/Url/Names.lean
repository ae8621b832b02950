import IndicatorFeeds.Url.Parser
import Mathlib.Data.List.Basic

namespace IndicatorFeeds.Url

/-- A character that stands for itself in a URL. -/
def isUnreserved (c : Char) : Bool := c.isAlphanum || c = '-' || c = '.' || c = '_'

/-- A segment that is read as it stands. -/
structure IsName (segment : List Char) : Prop where
  some : segment ≠ []
  unreserved : ∀ c ∈ segment, isUnreserved c = true
  notDot : segment ≠ ['.']
  notDots : segment ≠ ['.', '.']

/-- The names with slashes between them. -/
def joined (segments : List (List Char)) : List Char := ['/'].intercalate segments

section

variable {c : Char}

theorem isUnreserved_iff : isUnreserved c = true ↔
    c.isUpper = true ∨ c.isLower = true ∨ c.isDigit = true ∨ c = '-' ∨ c = '.' ∨ c = '_' := by
  change (((c.isUpper || c.isLower || c.isDigit) || decide (c = '-')) || decide (c = '.') ||
    decide (c = '_')) = true ↔ _
  simp only [Bool.or_eq_true, decide_eq_true_eq, or_assoc]

private theorem toNat_lt_of_isUnreserved (unreserved : isUnreserved c = true) : c.toNat < 128 := by
  have upTo (last : Char) (ascii : last.val.toNat < 128) (within : c.val ≤ last.val) : c.toNat < 128 :=
    Nat.lt_of_le_of_lt (UInt32.le_iff_toNat_le.mp within) ascii
  rcases isUnreserved_iff.mp unreserved with upper | lower | digit | rfl | rfl | rfl
  · exact upTo 'Z' (by decide) (of_decide_eq_true upper).2
  · exact upTo 'z' (by decide) (of_decide_eq_true (Bool.and_eq_true_iff.mp lower).2)
  · exact upTo '9' (by decide) (of_decide_eq_true (Bool.and_eq_true_iff.mp digit).2)
  all_goals decide

/-- What a character that stands for itself is not. -/
private structure Plain (c : Char) : Prop where
  notEdge : ¬c.toNat ≤ 0x20
  visible : isPassedOver c = false
  notSlash : c ≠ '/' ∧ c ≠ '\\'
  inside : c ≠ '?' ∧ c ≠ '#'
  notColon : c ≠ ':'
  unencoded : inPath c = false
  notEscape : c.toLower ≠ '%'
  dot : c.toLower = '.' → c = '.'
  lower : isUnreserved c.toLower = true

private theorem plain_of_isUnreserved (unreserved : isUnreserved c = true) : Plain c := by
  have all : ∀ n : Fin 128, isUnreserved (Char.ofNat n) = true →
      ¬(Char.ofNat n).toNat ≤ 0x20 ∧ isPassedOver (Char.ofNat n) = false ∧
        (Char.ofNat n ≠ '/' ∧ Char.ofNat n ≠ '\\') ∧ (Char.ofNat n ≠ '?' ∧ Char.ofNat n ≠ '#') ∧
        Char.ofNat n ≠ ':' ∧ inPath (Char.ofNat n) = false ∧ (Char.ofNat n).toLower ≠ '%' ∧
        ((Char.ofNat n).toLower = '.' → Char.ofNat n = '.') ∧
        isUnreserved (Char.ofNat n).toLower = true := by decide
  have here := all ⟨c.toNat, toNat_lt_of_isUnreserved unreserved⟩
  simp only [Char.ofNat_toNat] at here
  obtain ⟨notEdge, visible, notSlash, inside, notColon, unencoded, notEscape, dot, lower⟩ :=
    here unreserved
  exact ⟨notEdge, visible, notSlash, inside, notColon, unencoded, notEscape, dot, lower⟩

end

section

variable {segment : List Char}

private theorem IsName.plain (name : IsName segment) : ∀ c ∈ segment, Plain c := fun c member =>
  plain_of_isUnreserved (name.unreserved c member)

end

section

variable {segments : List (List Char)}

private theorem joined_cons_cons (segment next : List Char) (rest : List (List Char)) :
    joined (segment :: next :: rest) = segment ++ '/' :: joined (next :: rest) := by
  simp [joined, List.intercalate]

private theorem joined_singleton (segment : List Char) : joined [segment] = segment := by
  simp [joined, List.intercalate]

private theorem head_joined (there : segments ≠ []) (names : ∀ segment ∈ segments, IsName segment) :
    ∃ c rest, joined segments = c :: rest ∧ Plain c := by
  cases segments with
  | nil => exact absurd rfl there
  | cons segment others =>
    have name := names segment List.mem_cons_self
    cases segment with
    | nil => exact absurd rfl name.some
    | cons c more =>
      have plain := name.plain c List.mem_cons_self
      cases others with
      | nil => exact ⟨c, more, joined_singleton _, plain⟩
      | cons next rest => exact ⟨c, _, joined_cons_cons _ _ _, plain⟩

end

end IndicatorFeeds.Url

/-!
UTF-8, read byte by byte. `decode` gives the characters of well-formed bytes; otherwise it says
where the first malformed sequence starts and how many bytes of it can be blamed, or that the
bytes end inside a sequence. The bytes that a text is written as are read as that text.
-/

namespace IndicatorFeeds.Text

/-- Why bytes are not UTF-8. -/
structure Utf8Refusal where
  /-- Index of the first byte of the sequence that fails. -/
  start : Nat
  /-- How many bytes are wrong for certain; `none` if the bytes end too early. -/
  length : Option Nat
deriving Repr, DecidableEq

/-- The wording of a refusal. -/
def Utf8Refusal.message (r : Utf8Refusal) : String :=
  match r.length with
  | some n => s!"invalid utf-8 sequence of {n} bytes from index {r.start}"
  | none => s!"incomplete utf-8 byte sequence from index {r.start}"

/-- What stands at the head of non-empty bytes. -/
inductive Utf8Head where
  | char (c : Char) (size : Nat)
  | malformed (length : Nat)
  | cut

private def isContinuation (b : UInt8) : Bool :=
  0x80 ≤ b && b ≤ 0xbf

private def low (b : UInt8) : Nat :=
  b.toNat % 0x40

/-- The second byte that may follow a leading byte of three or four bytes. -/
private def mayFollow (lead second : UInt8) : Bool :=
  isContinuation second &&
    !(lead == 0xe0 && second < 0xa0) && !(lead == 0xed && second > 0x9f) &&
    !(lead == 0xf0 && second < 0x90) && !(lead == 0xf4 && second > 0x8f)

/-- The first character of the bytes `lead :: rest`, or what is wrong with it. -/
def utf8Head (lead : UInt8) (rest : List UInt8) : Utf8Head :=
  if lead < 0x80 then .char (Char.ofNat lead.toNat) 1
  else if lead < 0xc2 || lead > 0xf4 then .malformed 1
  else match rest with
    | [] => .cut
    | second :: rest =>
      if !mayFollow lead second then .malformed 1
      else if lead < 0xe0 then .char (Char.ofNat (lead.toNat % 0x20 * 0x40 + low second)) 2
      else match rest with
        | [] => .cut
        | third :: rest =>
          if !isContinuation third then .malformed 2
          else if lead < 0xf0 then
            .char (Char.ofNat ((lead.toNat % 0x10 * 0x40 + low second) * 0x40 + low third)) 3
          else match rest with
            | [] => .cut
            | fourth :: _ =>
              if !isContinuation fourth then .malformed 3
              else .char (Char.ofNat
                (((lead.toNat % 0x08 * 0x40 + low second) * 0x40 + low third) * 0x40 +
                  low fourth)) 4

private def decodeFrom (start : Nat) (done : List Char) :
    List UInt8 → Except Utf8Refusal (List Char)
  | [] => .ok done.reverse
  | lead :: rest =>
    match utf8Head lead rest with
    | .char c size => decodeFrom (start + size) (c :: done) (rest.drop (size - 1))
    | .malformed length => .error ⟨start, some length⟩
    | .cut => .error ⟨start, none⟩
termination_by bytes => bytes.length
decreasing_by simp only [List.length_drop, List.length_cons]; omega

/-- The characters of the bytes, or where they stop being UTF-8. -/
def decodeUtf8 (bytes : List UInt8) : Except Utf8Refusal (List Char) :=
  decodeFrom 0 [] bytes

def encodeUtf8 (cs : List Char) : List UInt8 :=
  (String.ofList cs).toUTF8.toList

private theorem toList_loop (bs : ByteArray) (i : Nat) (done : List UInt8) :
    ByteArray.toList.loop bs i done = done.reverse ++ bs.data.toList.drop i := by
  rw [ByteArray.toList.loop.eq_def]
  split
  · rename_i more
    have more : i < bs.data.toList.length := more
    have byte : bs.get! i = bs.data.toList[i] := by
      show bs.data[i]! = _
      rw [getElem!_pos bs.data i more, Array.getElem_toList]
    rw [toList_loop, byte, List.drop_eq_getElem_cons more, List.reverse_cons, List.append_assoc]
    rfl
  · rename_i finished
    have finished : bs.data.toList.length ≤ i := Nat.le_of_not_lt finished
    rw [List.drop_eq_nil_of_le finished, List.append_nil]
termination_by bs.size - i

theorem encodeUtf8_eq_flatMap (cs : List Char) : encodeUtf8 cs = cs.flatMap String.utf8EncodeChar := by
  show ByteArray.toList.loop (List.utf8Encode cs) 0 [] = _
  rw [toList_loop, List.utf8Encode, List.data_toByteArray]
  simp

theorem encodeUtf8_append (cs cs' : List Char) :
    encodeUtf8 (cs ++ cs') = encodeUtf8 cs ++ encodeUtf8 cs' := by
  simp [encodeUtf8_eq_flatMap]

theorem encodeUtf8_cons (c : Char) (cs : List Char) :
    encodeUtf8 (c :: cs) = String.utf8EncodeChar c ++ encodeUtf8 cs := by
  simp [encodeUtf8_eq_flatMap]

private theorem toNat_ofNat {n : Nat} (small : n < 256) : (UInt8.ofNat n).toNat = n :=
  UInt8.toNat_ofNat_of_lt small

/-- Six bits of a character make a byte that goes on with a sequence, and can be got from it. -/
private theorem tail_byte (n : Nat) : isContinuation (UInt8.ofNat (n % 64 + 128)) = true ∧
    low (UInt8.ofNat (n % 64 + 128)) = n % 64 := by
  have value : (UInt8.ofNat (n % 64 + 128)).toNat = n % 64 + 128 := toNat_ofNat (by omega)
  unfold isContinuation low
  rw [Bool.and_eq_true, decide_eq_true_iff, decide_eq_true_iff, UInt8.le_iff_toNat_le,
    UInt8.le_iff_toNat_le, value]
  simp only [UInt8.reduceToNat]
  omega

private theorem mayFollow_iff (lead : UInt8) {second : UInt8} (goesOn : isContinuation second = true) :
    mayFollow lead second = true ↔ (lead.toNat = 0xe0 → 0xa0 ≤ second.toNat) ∧
      (lead.toNat = 0xed → second.toNat ≤ 0x9f) ∧ (lead.toNat = 0xf0 → 0x90 ≤ second.toNat) ∧
      (lead.toNat = 0xf4 → second.toNat ≤ 0x8f) := by
  simp [mayFollow, goesOn, ← UInt8.toNat_inj, UInt8.lt_iff_toNat_lt]
  omega

section

variable {lead second third fourth : UInt8} {rest : List UInt8}

private theorem utf8Head_several (least : 0xc2 ≤ lead.toNat) (most : lead.toNat ≤ 0xf4)
    (follows : mayFollow lead second = true) : utf8Head lead (second :: rest) =
      if lead < 0xe0 then .char (Char.ofNat (lead.toNat % 0x20 * 0x40 + low second)) 2
      else match rest with
        | [] => .cut
        | third :: rest =>
          if !isContinuation third then .malformed 2
          else if lead < 0xf0 then
            .char (Char.ofNat ((lead.toNat % 0x10 * 0x40 + low second) * 0x40 + low third)) 3
          else match rest with
            | [] => .cut
            | fourth :: _ =>
              if !isContinuation fourth then .malformed 3
              else .char (Char.ofNat
                (((lead.toNat % 0x08 * 0x40 + low second) * 0x40 + low third) * 0x40 +
                  low fourth)) 4 := by
  have several : ¬lead < 0x80 := by
    rw [UInt8.lt_iff_toNat_lt]
    simp only [UInt8.reduceToNat]
    omega
  have starts : ¬(lead < 0xc2 || lead > 0xf4) = true := by
    rw [Bool.or_eq_true, decide_eq_true_iff, decide_eq_true_iff, GT.gt, UInt8.lt_iff_toNat_lt,
      UInt8.lt_iff_toNat_lt]
    simp only [UInt8.reduceToNat]
    omega
  unfold utf8Head
  rw [if_neg several, if_neg starts]
  simp only [follows, Bool.not_true, Bool.false_eq_true, if_false]

end

section

variable {n : Nat} (rest : List UInt8)

private theorem utf8Head_one (most : n ≤ 0x7f) :
    utf8Head (UInt8.ofNat n) rest = .char (Char.ofNat n) 1 := by
  have lead : (UInt8.ofNat n).toNat = n := toNat_ofNat (by omega)
  have alone : UInt8.ofNat n < 0x80 := by
    simp only [UInt8.lt_iff_toNat_lt, lead, UInt8.reduceToNat]
    omega
  unfold utf8Head
  rw [if_pos alone, lead]

private theorem utf8Head_two (least : 0x7f < n) (most : n ≤ 0x7ff) :
    utf8Head (UInt8.ofNat (n / 64 % 32 + 192)) (UInt8.ofNat (n % 64 + 128) :: rest) =
      .char (Char.ofNat n) 2 := by
  have lead : (UInt8.ofNat (n / 64 % 32 + 192)).toNat = n / 64 % 32 + 192 :=
    toNat_ofNat (by omega)
  obtain ⟨goesOn, bits⟩ := tail_byte n
  have follows := (mayFollow_iff (UInt8.ofNat (n / 64 % 32 + 192)) goesOn).mpr (by omega)
  have two : UInt8.ofNat (n / 64 % 32 + 192) < 0xe0 := by
    simp only [UInt8.lt_iff_toNat_lt, lead, UInt8.reduceToNat]
    omega
  have sum : (n / 64 % 32 + 192) % 0x20 * 0x40 + n % 64 = n := by omega
  rw [utf8Head_several (by omega) (by omega) follows, if_pos two, lead, bits, sum]

private theorem utf8Head_three (least : 0x7ff < n) (most : n ≤ 0xffff)
    (valid : n < 0xd800 ∨ 0xdfff < n) :
    utf8Head (UInt8.ofNat (n / 4096 % 16 + 224))
        (UInt8.ofNat (n / 64 % 64 + 128) :: UInt8.ofNat (n % 64 + 128) :: rest) =
      .char (Char.ofNat n) 3 := by
  have lead : (UInt8.ofNat (n / 4096 % 16 + 224)).toNat = n / 4096 % 16 + 224 :=
    toNat_ofNat (by omega)
  have second : (UInt8.ofNat (n / 64 % 64 + 128)).toNat = n / 64 % 64 + 128 :=
    toNat_ofNat (by omega)
  obtain ⟨goesOn, bits⟩ := tail_byte (n / 64)
  obtain ⟨ends, last⟩ := tail_byte n
  have follows := (mayFollow_iff (UInt8.ofNat (n / 4096 % 16 + 224)) goesOn).mpr (by omega)
  have more : ¬UInt8.ofNat (n / 4096 % 16 + 224) < 0xe0 := by
    simp only [UInt8.lt_iff_toNat_lt, lead, UInt8.reduceToNat]
    omega
  have three : UInt8.ofNat (n / 4096 % 16 + 224) < 0xf0 := by
    simp only [UInt8.lt_iff_toNat_lt, lead, UInt8.reduceToNat]
    omega
  have sum : ((n / 4096 % 16 + 224) % 0x10 * 0x40 + n / 64 % 64) * 0x40 + n % 64 = n := by omega
  rw [utf8Head_several (by omega) (by omega) follows, if_neg more]
  simp only [ends, Bool.not_true, Bool.false_eq_true, if_false]
  rw [if_pos three, lead, bits, last, sum]

private theorem utf8Head_four (least : 0xffff < n) (most : n < 0x110000) :
    utf8Head (UInt8.ofNat (n / 262144 % 8 + 240))
        (UInt8.ofNat (n / 4096 % 64 + 128) :: UInt8.ofNat (n / 64 % 64 + 128) ::
          UInt8.ofNat (n % 64 + 128) :: rest) =
      .char (Char.ofNat n) 4 := by
  have lead : (UInt8.ofNat (n / 262144 % 8 + 240)).toNat = n / 262144 % 8 + 240 :=
    toNat_ofNat (by omega)
  have second : (UInt8.ofNat (n / 4096 % 64 + 128)).toNat = n / 4096 % 64 + 128 :=
    toNat_ofNat (by omega)
  obtain ⟨goesOn, bits⟩ := tail_byte (n / 4096)
  obtain ⟨goesOn', bits'⟩ := tail_byte (n / 64)
  obtain ⟨ends, last⟩ := tail_byte n
  have follows := (mayFollow_iff (UInt8.ofNat (n / 262144 % 8 + 240)) goesOn).mpr (by omega)
  have more : ¬UInt8.ofNat (n / 262144 % 8 + 240) < 0xe0 := by
    simp only [UInt8.lt_iff_toNat_lt, lead, UInt8.reduceToNat]
    omega
  have four : ¬UInt8.ofNat (n / 262144 % 8 + 240) < 0xf0 := by
    simp only [UInt8.lt_iff_toNat_lt, lead, UInt8.reduceToNat]
    omega
  have sum : (((n / 262144 % 8 + 240) % 0x08 * 0x40 + n / 4096 % 64) * 0x40 + n / 64 % 64) * 0x40 +
      n % 64 = n := by omega
  rw [utf8Head_several (by omega) (by omega) follows, if_neg more]
  simp only [goesOn', Bool.not_true, Bool.false_eq_true, if_false]
  rw [if_neg four]
  simp only [ends, Bool.not_true, Bool.false_eq_true, if_false]
  rw [lead, bits, bits', last, sum]

end

/-- The bytes of a character are read as that character, whatever follows. -/
private theorem utf8Head_utf8EncodeChar (c : Char) (rest : List UInt8) : ∃ lead tail,
    String.utf8EncodeChar c = lead :: tail ∧
      utf8Head lead (tail ++ rest) = .char c (tail.length + 1) := by
  have valid : c.val.toNat < 0xd800 ∨ 0xdfff < c.val.toNat ∧ c.val.toNat < 0x110000 := c.valid
  have same : Char.ofNat c.val.toNat = c := Char.ofNat_toNat c
  unfold String.utf8EncodeChar
  generalize c.val.toNat = n at valid same
  subst same
  dsimp only
  split
  · exact ⟨_, _, rfl, utf8Head_one rest (by omega)⟩
  split
  · exact ⟨_, _, rfl, utf8Head_two rest (by omega) (by omega)⟩
  split
  · exact ⟨_, _, rfl, utf8Head_three rest (by omega) (by omega) (by omega)⟩
  · exact ⟨_, _, rfl, utf8Head_four rest (by omega) (by omega)⟩

private theorem decodeFrom_encodeUtf8 (start : Nat) (done cs : List Char) :
    decodeFrom start done (encodeUtf8 cs) = .ok (done.reverse ++ cs) := by
  induction cs generalizing start done with
  | nil =>
    rw [encodeUtf8_eq_flatMap, List.flatMap_nil, decodeFrom, List.append_nil]
  | cons c cs ih =>
    obtain ⟨lead, tail, bytes, head⟩ := utf8Head_utf8EncodeChar c (encodeUtf8 cs)
    have rest : (tail ++ encodeUtf8 cs).drop (tail.length + 1 - 1) = encodeUtf8 cs :=
      List.drop_left ..
    rw [encodeUtf8_cons, bytes, List.cons_append, decodeFrom, head]
    dsimp only
    rw [rest, ih]
    simp

/-- The bytes of a text are read as the text. -/
theorem decodeUtf8_encodeUtf8 (cs : List Char) : decodeUtf8 (encodeUtf8 cs) = .ok cs :=
  decodeFrom_encodeUtf8 0 [] cs

/-- A byte below 0x80 is no part of a longer sequence. -/
theorem toNat_of_mem_utf8EncodeChar {c : Char} {b : UInt8} (small : b.toNat < 0x80)
    (member : b ∈ String.utf8EncodeChar c) : c.toNat = b.toNat := by
  have large {n : Nat} (least : 0x80 ≤ n) (most : n < 256) : b ≠ UInt8.ofNat n := by
    rintro rfl
    rw [toNat_ofNat most] at small
    omega
  show c.val.toNat = b.toNat
  unfold String.utf8EncodeChar at member
  generalize c.val.toNat = n at member
  dsimp only at member
  split at member
  · obtain rfl := List.mem_singleton.mp member
    exact (toNat_ofNat (by omega)).symm
  split at member
  · simp only [List.mem_cons, List.not_mem_nil, or_false] at member
    rcases member with same | same <;> exact absurd same (large (by omega) (by omega))
  split at member
  · simp only [List.mem_cons, List.not_mem_nil, or_false] at member
    rcases member with same | same | same <;> exact absurd same (large (by omega) (by omega))
  · simp only [List.mem_cons, List.not_mem_nil, or_false] at member
    rcases member with same | same | same | same <;> exact absurd same (large (by omega) (by omega))

/-- A byte below 0x80 stands in a text where its character does. -/
theorem mem_of_mem_encodeUtf8 {c : Char} {b : UInt8} {cs : List Char} (small : b.toNat < 0x80)
    (same : c.toNat = b.toNat) (member : b ∈ encodeUtf8 cs) : c ∈ cs := by
  rw [encodeUtf8_eq_flatMap] at member
  obtain ⟨other, present, part⟩ := List.mem_flatMap.mp member
  have equal : other.toNat = c.toNat := (toNat_of_mem_utf8EncodeChar small part).trans same.symm
  exact Char.toNat_inj.mp equal ▸ present

end IndicatorFeeds.Text

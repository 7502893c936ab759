import CommandDocs.Proofs.Text.Utf8

/-!
# Decoding is strict

What is decoded is encoded to the same bytes again.  So bytes are refused exactly when they are
the encoding of no text, and a text has only one encoding.
-/

namespace CommandDocs.Text.Utf8

def WellFormed (bytes : Bytes) : Prop :=
  ∃ s, encode s = bytes

/-! ## Characters by their numbers -/

theorem exists_toUInt8 (b : UInt8) : ∃ x, x < 256 ∧ b = x.toUInt8 :=
  ⟨b.toNat, b.toNat_lt, by simp [Nat.toUInt8]⟩

theorem isTail_toUInt8_iff {x : Nat} (small : x < 256) :
    isTail x.toUInt8 = true ↔ 0x80 ≤ x ∧ x ≤ 0xBF := by
  simp [isTail, UInt8.le_iff_toNat_le, toNat_toUInt8 small]

theorem addTail_toUInt8 (value : Nat) {x : Nat} (small : x < 256) :
    addTail value x.toUInt8 = value * 64 + x % 64 := by
  rw [addTail, toNat_toUInt8 small]

/-- The bytes of a character that is given by its number. -/
theorem encodeChar_ofNat {n : Nat} (valid : n < 0xD800 ∨ 0xDFFF < n ∧ n < 0x110000) :
    encodeChar (Char.ofNat n) =
      if n < 0x80 then [n.toUInt8]
      else if n < 0x800 then [(0xC0 + n / 64).toUInt8, (0x80 + n % 64).toUInt8]
      else if n < 0x10000 then
        [(0xE0 + n / 4096).toUInt8, (0x80 + n / 64 % 64).toUInt8, (0x80 + n % 64).toUInt8]
      else
        [(0xF0 + n / 262144).toUInt8, (0x80 + n / 4096 % 64).toUInt8,
          (0x80 + n / 64 % 64).toUInt8, (0x80 + n % 64).toUInt8] := by
  have number : (Char.ofNat n).toNat = n := by
    have scalar : n.isValidChar := valid
    rw [Char.ofNat, dif_pos scalar]
    rfl
  rw [encodeChar, number]

/-! ## One character -/

section OneCharacter

variable {x : Nat} (lead : x < 256)
include lead

theorem encodeChar_one (count : tailCount? x.toUInt8 = some 0) :
    encodeChar (Char.ofNat (leadValue x.toUInt8)) = [x.toUInt8] := by
  have small : x < 0x80 := by
    rw [tailCount?_toUInt8 lead] at count
    grind
  rw [leadValue_toUInt8 lead, if_pos small, encodeChar_ofNat (by omega), if_pos small]

theorem encodeChar_two {y : Nat} (small : y < 256) (count : tailCount? x.toUInt8 = some 1)
    (tail : isTail y.toUInt8 = true) :
    encodeChar (Char.ofNat (addTail (leadValue x.toUInt8) y.toUInt8)) =
      [x.toUInt8, y.toUInt8] := by
  have range : 0xC2 ≤ x ∧ x ≤ 0xDF := by
    rw [tailCount?_toUInt8 lead] at count
    grind
  have second := (isTail_toUInt8_iff small).mp tail
  rw [leadValue_toUInt8 lead, if_neg (by omega), if_pos (by omega), addTail_toUInt8 _ small]
  generalize number : x % 32 * 64 + y % 64 = n
  rw [encodeChar_ofNat (by omega), if_neg (by omega), if_pos (by omega)]
  have first : 0xC0 + n / 64 = x := by omega
  have last : 0x80 + n % 64 = y := by omega
  rw [first, last]

theorem encodeChar_three {y z : Nat} (smallY : y < 256) (smallZ : z < 256)
    (count : tailCount? x.toUInt8 = some 2) (second : isSecond x.toUInt8 y.toUInt8 = true)
    (tail : isTail z.toUInt8 = true) :
    encodeChar (Char.ofNat (addTail (addTail (leadValue x.toUInt8) y.toUInt8) z.toUInt8)) =
      [x.toUInt8, y.toUInt8, z.toUInt8] := by
  have range : 0xE0 ≤ x ∧ x ≤ 0xEF := by
    rw [tailCount?_toUInt8 lead] at count
    grind
  have third := (isTail_toUInt8_iff smallZ).mp tail
  have middle : 0x80 ≤ y ∧ y ≤ 0xBF ∧ (x = 0xE0 → 0xA0 ≤ y) ∧ (x = 0xED → y ≤ 0x9F) := by
    rw [isSecond_toUInt8 lead smallY] at second
    grind
  rw [leadValue_toUInt8 lead, if_neg (by omega), if_neg (by omega), if_pos (by omega),
    addTail_toUInt8 _ smallY, addTail_toUInt8 _ smallZ]
  generalize number : (x % 16 * 64 + y % 64) * 64 + z % 64 = n
  rw [encodeChar_ofNat (by omega), if_neg (by omega), if_neg (by omega), if_pos (by omega)]
  have first : 0xE0 + n / 4096 = x := by omega
  have next : 0x80 + n / 64 % 64 = y := by omega
  have last : 0x80 + n % 64 = z := by omega
  rw [first, next, last]

theorem encodeChar_four {y z u : Nat} (smallY : y < 256) (smallZ : z < 256) (smallU : u < 256)
    (count : tailCount? x.toUInt8 = some 3) (second : isSecond x.toUInt8 y.toUInt8 = true)
    (tail : isTail z.toUInt8 = true) (final : isTail u.toUInt8 = true) :
    encodeChar (Char.ofNat
        (addTail (addTail (addTail (leadValue x.toUInt8) y.toUInt8) z.toUInt8) u.toUInt8)) =
      [x.toUInt8, y.toUInt8, z.toUInt8, u.toUInt8] := by
  have range : 0xF0 ≤ x ∧ x ≤ 0xF4 := by
    rw [tailCount?_toUInt8 lead] at count
    grind
  have third := (isTail_toUInt8_iff smallZ).mp tail
  have fourth := (isTail_toUInt8_iff smallU).mp final
  have middle : 0x80 ≤ y ∧ y ≤ 0xBF ∧ (x = 0xF0 → 0x90 ≤ y) ∧ (x = 0xF4 → y ≤ 0x8F) := by
    rw [isSecond_toUInt8 lead smallY] at second
    grind
  rw [leadValue_toUInt8 lead, if_neg (by omega), if_neg (by omega), if_neg (by omega),
    addTail_toUInt8 _ smallY, addTail_toUInt8 _ smallZ, addTail_toUInt8 _ smallU]
  generalize number : ((x % 8 * 64 + y % 64) * 64 + z % 64) * 64 + u % 64 = n
  rw [encodeChar_ofNat (by omega), if_neg (by omega), if_neg (by omega), if_neg (by omega)]
  have first : 0xF0 + n / 262144 = x := by omega
  have next : 0x80 + n / 4096 % 64 = y := by omega
  have other : 0x80 + n / 64 % 64 = z := by omega
  have last : 0x80 + n % 64 = u := by omega
  rw [first, next, other, last]

end OneCharacter

theorem encodeChar_of_next {first : UInt8} {rest more : Bytes} {c : Char}
    (read : next first rest = .ok (c, more)) : encodeChar c ++ more = first :: rest := by
  obtain ⟨x, lead, rfl⟩ := exists_toUInt8 first
  unfold next at read
  split at read
  · cases read
  · rename_i count
    cases read
    rw [encodeChar_one lead count, List.singleton_append]
  · cases read
  · rename_i b more count
    obtain ⟨y, small, rfl⟩ := exists_toUInt8 b
    split at read
    · rename_i tail
      cases read
      rw [encodeChar_two lead small count tail]
      rfl
    · cases read
  · rename_i b more count
    obtain ⟨y, smallY, rfl⟩ := exists_toUInt8 b
    split at read
    · cases read
    · rename_i second
      split at read
      · cases read
      · rename_i c more
        obtain ⟨z, smallZ, rfl⟩ := exists_toUInt8 c
        split at read
        · rename_i tail
          cases read
          rw [encodeChar_three lead smallY smallZ count (by simpa using second) tail]
          rfl
        · cases read
  · rename_i tails b more zero one two count
    obtain ⟨y, smallY, rfl⟩ := exists_toUInt8 b
    have three : tailCount? x.toUInt8 = some 3 := by
      rw [tailCount?_toUInt8 lead] at count ⊢
      grind
    split at read
    · cases read
    · rename_i second
      split at read
      · cases read
      · rename_i c more
        obtain ⟨z, smallZ, rfl⟩ := exists_toUInt8 c
        split at read
        · cases read
        · rename_i tail
          split at read
          · cases read
          · rename_i d more
            obtain ⟨u, smallU, rfl⟩ := exists_toUInt8 d
            split at read
            · rename_i final
              cases read
              rw [encodeChar_four lead smallY smallZ smallU three (by simpa using second)
                (by simpa using tail) final]
              rfl
            · cases read

/-! ## Whole texts -/

theorem encode_of_decodeFrom {position : Nat} {bytes : Bytes} {s : List Char}
    (read : decodeFrom position bytes = .ok s) : encode s = bytes := by
  fun_induction decodeFrom position bytes generalizing s with
  | case1 position =>
      cases read
      rfl
  | case2 position first rest bytes reason refused => cases read
  | case3 position first rest c more found shorter ih =>
      cases later : decodeFrom (position + (encodeChar c).length) more with
      | error fault =>
          rw [later] at read
          cases read
      | ok others =>
          rw [later] at read
          cases read
          have same := ih later
          rw [encode, List.flatMap_cons, ← encode, same]
          exact encodeChar_of_next found

/-- **What is decoded is encoded to the same bytes again.** -/
theorem decode_eq_ok_iff {bytes : Bytes} {s : List Char} :
    decode bytes = .ok s ↔ encode s = bytes := by
  constructor
  · intro read
    exact encode_of_decodeFrom read
  · rintro rfl
    exact decode_encode s

/-- Bytes are refused exactly when they encode no text. -/
theorem exists_decode_eq_error_iff {bytes : Bytes} :
    (∃ fault, decode bytes = .error fault) ↔ ¬WellFormed bytes := by
  constructor
  · rintro ⟨fault, refused⟩ ⟨s, same⟩
    rw [decode_eq_ok_iff.mpr same] at refused
    cases refused
  · intro formless
    cases read : decode bytes with
    | error fault => exact ⟨fault, rfl⟩
    | ok s => exact absurd ⟨s, decode_eq_ok_iff.mp read⟩ formless

/-! ## Texts put together -/

theorem encode_append (s t : List Char) : encode (s ++ t) = encode s ++ encode t :=
  List.flatMap_append

/-- ASCII is encoded by single bytes. -/
theorem lt_of_mem_encode {s : List Char} (ascii : ∀ c ∈ s, c.toNat < 0x80) :
    ∀ b ∈ encode s, b < 0x80 := by
  intro b member
  obtain ⟨c, own, inside⟩ := List.mem_flatMap.mp member
  have small := ascii c own
  have one : encodeChar c = [c.toNat.toUInt8] := by simp [encodeChar, small]
  rw [one, List.mem_singleton] at inside
  rw [inside, UInt8.lt_iff_toNat_lt, toNat_toUInt8 (by omega)]
  exact small

theorem encode_intercalate (separator : List Char) (texts : List (List Char)) :
    encode (List.intercalate separator texts) =
      List.intercalate (encode separator) (texts.map encode) := by
  induction texts with
  | nil => rfl
  | cons text texts ih =>
      cases texts with
      | nil => simp
      | cons next others =>
          rw [List.intercalate_cons_cons, encode_append, encode_append, ih]
          simp only [List.map_cons, List.intercalate_cons_cons]

end CommandDocs.Text.Utf8

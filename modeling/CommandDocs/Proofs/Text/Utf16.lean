import CommandDocs.Proofs.Text.Utf8
import CommandDocs.Text.Utf16

/-!
# UTF-16 is read back, and is strict

A code unit and its two bytes give each other back, and so do a character and its one or two code
units.  Bytes are therefore decoded to a text exactly when they are its encoding, in either order.
-/

namespace CommandDocs.Text.Utf16

/-! ## Code units -/

theorem unit_lt (order : ByteOrder) (a b : UInt8) : order.unit a b < 0x10000 := by
  have small := a.toNat_lt
  have other := b.toNat_lt
  cases order <;> simp only [ByteOrder.unit] <;> omega

/-- A code unit gives back the two bytes that it was read from. -/
theorem bytes_unit (order : ByteOrder) (a b : UInt8) :
    order.bytes (order.unit a b) = [a, b] := by
  have small := a.toNat_lt
  have other := b.toNat_lt
  have first : a.toNat.toUInt8 = a := by simp [Nat.toUInt8]
  have second : b.toNat.toUInt8 = b := by simp [Nat.toUInt8]
  cases order with
  | little =>
      have low : (a.toNat + 256 * b.toNat) % 256 = a.toNat := by omega
      have high : (a.toNat + 256 * b.toNat) / 256 = b.toNat := by omega
      simp only [ByteOrder.bytes, ByteOrder.unit, low, high, first, second]
  | big =>
      have low : (256 * a.toNat + b.toNat) % 256 = b.toNat := by omega
      have high : (256 * a.toNat + b.toNat) / 256 = a.toNat := by omega
      simp only [ByteOrder.bytes, ByteOrder.unit, low, high, first, second]

/-- Two bytes give back the code unit that they were made from. -/
theorem exists_bytes (order : ByteOrder) {n : Nat} (small : n < 0x10000) :
    ∃ a b, order.bytes n = [a, b] ∧ order.unit a b = n := by
  have low : (n % 256).toUInt8.toNat = n % 256 := Utf8.toNat_toUInt8 (by omega)
  have high : (n / 256).toUInt8.toNat = n / 256 := Utf8.toNat_toUInt8 (by omega)
  cases order with
  | little =>
      refine ⟨_, _, rfl, ?_⟩
      rw [ByteOrder.unit, low, high]
      omega
  | big =>
      refine ⟨_, _, rfl, ?_⟩
      rw [ByteOrder.unit, low, high]
      omega

/-! ## Characters -/

theorem isHigh_iff {n : Nat} : isHigh n = true ↔ 0xD800 ≤ n ∧ n < 0xDC00 := by
  simp [isHigh]

theorem isLow_iff {n : Nat} : isLow n = true ↔ 0xDC00 ≤ n ∧ n < 0xE000 := by
  simp [isLow]

theorem toNat_ofNat {n : Nat} (valid : n < 0xD800 ∨ 0xDFFF < n ∧ n < 0x110000) :
    (Char.ofNat n).toNat = n := by
  have scalar : n.isValidChar := valid
  rw [Char.ofNat, dif_pos scalar]
  rfl

theorem encodeChar_unit (order : ByteOrder) {n : Nat} (small : n < 0x10000)
    (high : isHigh n = false) (low : isLow n = false) :
    encodeChar order (Char.ofNat n) = order.bytes n := by
  have valid : n < 0xD800 ∨ 0xDFFF < n ∧ n < 0x110000 := by
    rw [← Bool.not_eq_true, isHigh_iff] at high
    rw [← Bool.not_eq_true, isLow_iff] at low
    omega
  rw [encodeChar, toNat_ofNat valid, if_pos small]

/-- A character of two code units. -/
theorem encodeChar_pair (order : ByteOrder) {m n : Nat} (high : isHigh m = true)
    (low : isLow n = true) :
    encodeChar order (Char.ofNat (0x10000 + (m - 0xD800) * 1024 + (n - 0xDC00))) =
      order.bytes m ++ order.bytes n := by
  rw [isHigh_iff] at high
  rw [isLow_iff] at low
  generalize number : 0x10000 + (m - 0xD800) * 1024 + (n - 0xDC00) = code
  have first : 0xD800 + (code - 0x10000) / 1024 = m := by omega
  have second : 0xDC00 + (code - 0x10000) % 1024 = n := by omega
  rw [encodeChar, toNat_ofNat (by omega), if_neg (by omega), first, second]

/-! ## Decoding -/

theorem decodeFrom_unit {order : ByteOrder} {a b : UInt8}
    (high : isHigh (order.unit a b) = false) (low : isLow (order.unit a b) = false)
    (position : Nat) (rest : Bytes) :
    decodeFrom order position (a :: b :: rest) =
      (decodeFrom order (position + 2) rest).map (Char.ofNat (order.unit a b) :: ·) := by
  rcases rest with _ | ⟨c, _ | ⟨d, more⟩⟩ <;> simp [decodeFrom, high, low]

theorem decodeFrom_pair {order : ByteOrder} {a b c d : UInt8}
    (high : isHigh (order.unit a b) = true) (low : isLow (order.unit c d) = true)
    (position : Nat) (rest : Bytes) :
    decodeFrom order position (a :: b :: c :: d :: rest) =
      (decodeFrom order (position + 4) rest).map
        (Char.ofNat (0x10000 + (order.unit a b - 0xD800) * 1024 +
          (order.unit c d - 0xDC00)) :: ·) := by
  rw [decodeFrom]
  simp [high, low]

/-- The bytes of a character give it back in front of any others. -/
theorem decodeFrom_encodeChar (order : ByteOrder) (position : Nat) (c : Char) (rest : Bytes) :
    ∃ next, decodeFrom order position (encodeChar order c ++ rest) =
      (decodeFrom order next rest).map (c :: ·) := by
  have valid : c.toNat < 0xD800 ∨ 0xDFFF < c.toNat ∧ c.toNat < 0x110000 := c.valid
  have back := Char.ofNat_toNat c
  unfold encodeChar
  generalize c.toNat = n at valid back
  dsimp only
  split
  · rename_i small
    obtain ⟨a, b, same, unit⟩ := exists_bytes order small
    have high : isHigh (order.unit a b) = false := by
      rw [← Bool.not_eq_true, isHigh_iff, unit]
      omega
    have low : isLow (order.unit a b) = false := by
      rw [← Bool.not_eq_true, isLow_iff, unit]
      omega
    refine ⟨position + 2, ?_⟩
    rw [same]
    exact (decodeFrom_unit high low position rest).trans (by rw [unit, back])
  · obtain ⟨a, b, first, upper⟩ := exists_bytes order
      (show 0xD800 + (n - 0x10000) / 1024 < 0x10000 by omega)
    obtain ⟨d, e, second, lower⟩ := exists_bytes order
      (show 0xDC00 + (n - 0x10000) % 1024 < 0x10000 by omega)
    have high : isHigh (order.unit a b) = true := by
      rw [isHigh_iff, upper]
      omega
    have low : isLow (order.unit d e) = true := by
      rw [isLow_iff, lower]
      omega
    have whole : 0x10000 + (0xD800 + (n - 0x10000) / 1024 - 0xD800) * 1024 +
        (0xDC00 + (n - 0x10000) % 1024 - 0xDC00) = n := by
      omega
    refine ⟨position + 4, ?_⟩
    rw [first, second]
    exact (decodeFrom_pair high low position rest).trans (by rw [upper, lower, whole, back])

theorem decodeFrom_encode (order : ByteOrder) (position : Nat) (s : List Char) :
    decodeFrom order position (encode order s) = .ok s := by
  induction s generalizing position with
  | nil => rfl
  | cons c s ih =>
      obtain ⟨next, same⟩ := decodeFrom_encodeChar order position c (encode order s)
      rw [encode, List.flatMap_cons, ← encode, same, ih]
      rfl

theorem encode_of_decodeFrom {order : ByteOrder} {position : Nat} {bytes : Bytes} {s : List Char}
    (read : decodeFrom order position bytes = .ok s) : encode order s = bytes := by
  fun_induction decodeFrom order position bytes generalizing s with
  | case1 =>
      cases read
      rfl
  | case2 | case4 | case5 | case6 => cases read
  | case3 position a b n high c d more low =>
      rename_i ih
      cases later : decodeFrom order (position + 4) more with
      | error fault =>
          rw [later] at read
          cases read
      | ok others =>
          rw [later] at read
          cases read
          have pair := encodeChar_pair order high low
          rw [bytes_unit, bytes_unit] at pair
          rw [encode, List.flatMap_cons, ← encode, ih later, pair]
          rfl
  | case7 position a b rest n high low =>
      rename_i ih
      cases later : decodeFrom order (position + 2) rest with
      | error fault =>
          rw [later] at read
          cases read
      | ok others =>
          rw [later] at read
          cases read
          have unit := encodeChar_unit order (unit_lt order a b) (Bool.eq_false_iff.mpr high)
            (Bool.eq_false_iff.mpr low)
          rw [bytes_unit] at unit
          rw [encode, List.flatMap_cons, ← encode, ih later, unit]
          rfl

/-- **What is decoded is encoded to the same bytes again.** -/
theorem decodeFrom_eq_ok_iff {order : ByteOrder} {position : Nat} {bytes : Bytes}
    {s : List Char} : decodeFrom order position bytes = .ok s ↔ encode order s = bytes := by
  constructor
  · exact encode_of_decodeFrom
  · rintro rfl
    exact decodeFrom_encode order position s

/-! ## Documents -/

/-- The byte order is the one whose mark opens the document. -/
theorem order?_eq_some_iff {bytes : Bytes} {order : ByteOrder} :
    order? bytes = some order ↔ order.mark <+: bytes := by
  unfold order?
  split
  · cases order <;> simp [ByteOrder.mark]
  · cases order <;> simp [ByteOrder.mark]
  · rename_i little big
    cases order with
    | little =>
        refine ⟨fun found => (by cases found), fun opened => ?_⟩
        obtain ⟨rest, rfl⟩ := opened
        exact absurd rfl (little rest)
    | big =>
        refine ⟨fun found => (by cases found), fun opened => ?_⟩
        obtain ⟨rest, rfl⟩ := opened
        exact absurd rfl (big rest)

theorem length_mark (order : ByteOrder) : order.mark.length = 2 := by
  cases order <;> rfl

theorem decodeDocument_eq_ok_iff {order : ByteOrder} {bytes : Bytes} {s : List Char}
    (opened : order.mark <+: bytes) :
    decodeDocument order bytes = .ok s ↔ bytes = order.mark ++ encode order s := by
  obtain ⟨rest, rfl⟩ := opened
  have cut : (order.mark ++ rest).drop 2 = rest := List.drop_left' (length_mark order)
  rw [decodeDocument, cut, decodeFrom_eq_ok_iff, List.append_cancel_left_eq, eq_comm]

end CommandDocs.Text.Utf16

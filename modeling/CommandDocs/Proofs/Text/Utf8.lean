import CommandDocs.Text.Decoding

/-!
# Encoded text is read back

The bytes of a character announce themselves: the first tells how many follow, and together they
give back the character and no byte more.
-/

namespace CommandDocs.Text.Utf8

theorem toNat_toUInt8 {x : Nat} (small : x < 256) : x.toUInt8.toNat = x := by
  simp [Nat.toUInt8, Nat.mod_eq_of_lt small]

/-- A byte is compared by its value. -/
theorem isTail_toUInt8 {x : Nat} (low : 0x80 ≤ x) (high : x ≤ 0xBF) :
    isTail x.toUInt8 = true := by
  have value := toNat_toUInt8 (show x < 256 by omega)
  simp [isTail, UInt8.le_iff_toNat_le, value, low, high]

theorem isTail_tail (x : Nat) : isTail (0x80 + x % 64).toUInt8 = true :=
  isTail_toUInt8 (by omega) (by omega)

theorem addTail_tail (value x : Nat) :
    addTail value (0x80 + x % 64).toUInt8 = value * 64 + x % 64 := by
  rw [addTail, toNat_toUInt8 (by omega)]
  omega

theorem tailCount?_toUInt8 {x : Nat} (small : x < 256) :
    tailCount? x.toUInt8 =
      if x < 0x80 then some 0
      else if 0xC2 ≤ x ∧ x ≤ 0xDF then some 1
      else if 0xE0 ≤ x ∧ x ≤ 0xEF then some 2
      else if 0xF0 ≤ x ∧ x ≤ 0xF4 then some 3
      else none := by
  have value := toNat_toUInt8 small
  simp [tailCount?, UInt8.le_iff_toNat_le, UInt8.lt_iff_toNat_lt, value]

theorem leadValue_toUInt8 {x : Nat} (small : x < 256) :
    leadValue x.toUInt8 =
      if x < 0x80 then x
      else if x < 0xE0 then x % 32
      else if x < 0xF0 then x % 16
      else x % 8 := by
  have value := toNat_toUInt8 small
  simp [leadValue, UInt8.lt_iff_toNat_lt, value]

theorem isSecond_toUInt8 {x y : Nat} (small : x < 256) (tail : y < 256) :
    isSecond x.toUInt8 y.toUInt8 = true ↔
      if x = 0xE0 then 0xA0 ≤ y ∧ y ≤ 0xBF
      else if x = 0xED then 0x80 ≤ y ∧ y ≤ 0x9F
      else if x = 0xF0 then 0x90 ≤ y ∧ y ≤ 0xBF
      else if x = 0xF4 then 0x80 ≤ y ∧ y ≤ 0x8F
      else 0x80 ≤ y ∧ y ≤ 0xBF := by
  have value := toNat_toUInt8 small
  have other := toNat_toUInt8 tail
  simp only [isSecond, beq_iff_eq, ← UInt8.toNat_inj, value, UInt8.reduceToNat]
  repeat' split
  all_goals simp [isTail, UInt8.le_iff_toNat_le, other]

theorem next_of_zero {first : UInt8} (count : tailCount? first = some 0) (rest : Bytes) :
    next first rest = .ok (Char.ofNat (leadValue first), rest) := by
  simp [next, count]

theorem next_of_one {first b : UInt8} (count : tailCount? first = some 1) (tail : isTail b = true)
    (rest : Bytes) :
    next first (b :: rest) = .ok (Char.ofNat (addTail (leadValue first) b), rest) := by
  simp [next, count, tail]

theorem next_of_two {first b c : UInt8} (count : tailCount? first = some 2)
    (second : isSecond first b = true) (tail : isTail c = true) (rest : Bytes) :
    next first (b :: c :: rest) =
      .ok (Char.ofNat (addTail (addTail (leadValue first) b) c), rest) := by
  simp [next, count, second, tail]

theorem next_of_three {first b c d : UInt8} (count : tailCount? first = some 3)
    (second : isSecond first b = true) (tail : isTail c = true) (last : isTail d = true)
    (rest : Bytes) :
    next first (b :: c :: d :: rest) =
      .ok (Char.ofNat (addTail (addTail (addTail (leadValue first) b) c) d), rest) := by
  simp [next, count, second, tail, last]

/-! ## The forms of a character -/

section Forms

variable {n : Nat} (rest : Bytes)

theorem next_single (one : n < 0x80) : next n.toUInt8 rest = .ok (Char.ofNat n, rest) := by
  have count : tailCount? n.toUInt8 = some 0 := by
    rw [tailCount?_toUInt8 (by omega), if_pos one]
  have lead : leadValue n.toUInt8 = n := by
    rw [leadValue_toUInt8 (by omega), if_pos one]
  rw [next_of_zero count, lead]

theorem next_double (many : ¬n < 0x80) (two : n < 0x800) :
    next (0xC0 + n / 64).toUInt8 ((0x80 + n % 64).toUInt8 :: rest) = .ok (Char.ofNat n, rest) := by
  have small : 0xC0 + n / 64 < 256 := by omega
  have count : tailCount? (0xC0 + n / 64).toUInt8 = some 1 := by
    rw [tailCount?_toUInt8 small, if_neg (by omega), if_pos (by omega)]
  have lead : leadValue (0xC0 + n / 64).toUInt8 = n / 64 := by
    rw [leadValue_toUInt8 small, if_neg (by omega), if_pos (by omega)]
    omega
  have whole : n / 64 * 64 + n % 64 = n := by omega
  rw [next_of_one count (isTail_tail _), lead, addTail_tail, whole]

theorem next_triple (valid : n < 0xD800 ∨ 0xDFFF < n) (many : ¬n < 0x800) (three : n < 0x10000) :
    next (0xE0 + n / 4096).toUInt8
      ((0x80 + n / 64 % 64).toUInt8 :: (0x80 + n % 64).toUInt8 :: rest) =
        .ok (Char.ofNat n, rest) := by
  have small : 0xE0 + n / 4096 < 256 := by omega
  have count : tailCount? (0xE0 + n / 4096).toUInt8 = some 2 := by
    rw [tailCount?_toUInt8 small, if_neg (by omega), if_neg (by omega), if_pos (by omega)]
  have lead : leadValue (0xE0 + n / 4096).toUInt8 = n / 4096 := by
    rw [leadValue_toUInt8 small, if_neg (by omega), if_neg (by omega), if_pos (by omega)]
    omega
  have second : isSecond (0xE0 + n / 4096).toUInt8 (0x80 + n / 64 % 64).toUInt8 = true := by
    rw [isSecond_toUInt8 small (by omega)]
    repeat' split
    all_goals omega
  have whole : (n / 4096 * 64 + n / 64 % 64) * 64 + n % 64 = n := by omega
  rw [next_of_two count second (isTail_tail _), lead, addTail_tail, addTail_tail, whole]

theorem next_quadruple (valid : n < 0x110000) (many : ¬n < 0x10000) :
    next (0xF0 + n / 262144).toUInt8
      ((0x80 + n / 4096 % 64).toUInt8 :: (0x80 + n / 64 % 64).toUInt8 ::
        (0x80 + n % 64).toUInt8 :: rest) = .ok (Char.ofNat n, rest) := by
  have small : 0xF0 + n / 262144 < 256 := by omega
  have count : tailCount? (0xF0 + n / 262144).toUInt8 = some 3 := by
    rw [tailCount?_toUInt8 small, if_neg (by omega), if_neg (by omega), if_neg (by omega),
      if_pos (by omega)]
  have lead : leadValue (0xF0 + n / 262144).toUInt8 = n / 262144 := by
    rw [leadValue_toUInt8 small, if_neg (by omega), if_neg (by omega), if_neg (by omega)]
    omega
  have second : isSecond (0xF0 + n / 262144).toUInt8 (0x80 + n / 4096 % 64).toUInt8 = true := by
    rw [isSecond_toUInt8 small (by omega)]
    repeat' split
    all_goals omega
  have whole : ((n / 262144 * 64 + n / 4096 % 64) * 64 + n / 64 % 64) * 64 + n % 64 = n := by
    omega
  rw [next_of_three count second (isTail_tail _) (isTail_tail _), lead, addTail_tail, addTail_tail,
    addTail_tail, whole]

end Forms

/-- The first byte of a character announces the others, and together they give it back. -/
theorem next_encodeChar (c : Char) (rest : Bytes) :
    ∃ first more, encodeChar c ++ rest = first :: more ∧ next first more = .ok (c, rest) := by
  have valid : c.toNat < 0xD800 ∨ 0xDFFF < c.toNat ∧ c.toNat < 0x110000 := c.valid
  have back := Char.ofNat_toNat c
  unfold encodeChar
  generalize c.toNat = n at valid back
  subst back
  dsimp only
  split
  · rename_i one
    exact ⟨_, _, rfl, next_single rest one⟩
  · rename_i many
    split
    · rename_i two
      exact ⟨_, _, rfl, next_double rest many two⟩
    · rename_i more
      split
      · rename_i three
        exact ⟨_, _, rfl, next_triple rest (valid.imp_right And.left) more three⟩
      · rename_i most
        exact ⟨_, _, rfl, next_quadruple rest (by omega) most⟩

theorem decodeFrom_cons {position : Nat} {first : UInt8} {rest more : Bytes} {c : Char}
    (read : next first rest = .ok (c, more)) :
    decodeFrom position (first :: rest) =
      (decodeFrom (position + (encodeChar c).length) more).map (c :: ·) := by
  rw [decodeFrom]
  split
  · rename_i refused
    rw [read] at refused
    cases refused
  · rename_i found
    rw [read] at found
    cases found
    rfl

theorem decodeFrom_encode (position : Nat) (s : List Char) :
    decodeFrom position (encode s) = .ok s := by
  induction s generalizing position with
  | nil => rw [encode, List.flatMap_nil, decodeFrom]
  | cons c s ih =>
      obtain ⟨first, more, same, read⟩ := next_encodeChar c (encode s)
      rw [encode, List.flatMap_cons]
      rw [encode] at same
      rw [same, decodeFrom_cons read, ih]
      rfl

/-- **Encoded text is read back.** -/
theorem decode_encode (s : List Char) : decode (encode s) = .ok s :=
  decodeFrom_encode 0 s

end CommandDocs.Text.Utf8

namespace CommandDocs.Text

theorem decodeText_encodeText (s : String) : decodeText (encodeText s) = .ok s := by
  rw [decodeText, encodeText, Utf8.decode_encode]
  exact congrArg Except.ok String.ofList_toList

/-- A document that opens with an ASCII character has no mark and is read back. -/
theorem decodeDocument_encodeText {c : Char} (ascii : c.toNat < 0x80) (rest : List Char) :
    decodeDocument (encodeText (String.ofList (c :: rest))) = .ok (String.ofList (c :: rest)) := by
  have bytes : encodeText (String.ofList (c :: rest)) = c.toNat.toUInt8 :: Utf8.encode rest := by
    rw [encodeText, String.toList_ofList, Utf8.encode, List.flatMap_cons, Utf8.encodeChar,
      if_pos ascii]
    rfl
  have apart (k : Nat) (large : 0x80 ≤ k) (small : k < 256) : c.toNat.toUInt8 ≠ k.toUInt8 := by
    intro same
    have value := congrArg UInt8.toNat same
    rw [Utf8.toNat_toUInt8 (by omega), Utf8.toNat_toUInt8 small] at value
    omega
  have unmarked : Utf16.order? (c.toNat.toUInt8 :: Utf8.encode rest) = none := by
    unfold Utf16.order?
    split
    · rename_i same
      exact absurd (List.cons.inj same).1 (apart 0xFF (by decide) (by decide))
    · rename_i same
      exact absurd (List.cons.inj same).1 (apart 0xFE (by decide) (by decide))
    · rfl
  have whole : Utf8.dropMark (c.toNat.toUInt8 :: Utf8.encode rest) =
      c.toNat.toUInt8 :: Utf8.encode rest := by
    unfold Utf8.dropMark
    split
    · rename_i same
      exact absurd (List.cons.inj same).1 (apart 0xEF (by decide) (by decide))
    · rfl
  rw [decodeDocument, bytes, unmarked]
  dsimp only
  rw [decodeMarked, whole, ← bytes, decodeText, encodeText, Utf8.decode_encode]
  rw [String.toList_ofList]

end CommandDocs.Text

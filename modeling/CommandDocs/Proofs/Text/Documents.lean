import CommandDocs.Proofs.Text.Strict
import CommandDocs.Proofs.Text.Utf16

/-!
# Documents

A document is a text in one of three encodings: in UTF-16 behind the mark of its byte order, in
UTF-8 behind a mark of its own, or in plain UTF-8.  Nothing else is read, and since the marks tell
the encodings apart, no document is read in the wrong one.
-/

namespace CommandDocs.Text

/-- Bytes that hold a text. -/
inductive IsDocument (bytes : List UInt8) (text : String) : Prop
  | utf16 (order : Utf16.ByteOrder)
      (held : bytes = order.mark ++ Utf16.encode order text.toList) : IsDocument bytes text
  | marked (unordered : ∀ order : Utf16.ByteOrder, ¬order.mark <+: bytes)
      (held : bytes = Utf8.mark ++ Utf8.encode text.toList) : IsDocument bytes text
  | plain (unordered : ∀ order : Utf16.ByteOrder, ¬order.mark <+: bytes)
      (unmarked : ¬Utf8.mark <+: bytes) (held : bytes = Utf8.encode text.toList) :
      IsDocument bytes text

/-! ## Marks -/

theorem Utf8.dropMark_mark (rest : List UInt8) : dropMark (mark ++ rest) = rest :=
  rfl

theorem Utf8.dropMark_of_unmarked {bytes : List UInt8} (unmarked : ¬mark <+: bytes) :
    dropMark bytes = bytes := by
  unfold dropMark
  split
  · exact absurd ⟨_, rfl⟩ unmarked
  · rfl

/-- Encoded text opens with the mark exactly when it opens with the character of the mark. -/
theorem Utf8.head?_of_mark_prefix {s : List Char} (opened : mark <+: encode s) :
    s.head? = some '\uFEFF' := by
  obtain ⟨rest, same⟩ := opened
  cases s with
  | nil => cases same
  | cons c s =>
      obtain ⟨first, more, bytes, read⟩ := next_encodeChar c (encode s)
      rw [encode, List.flatMap_cons, ← encode, bytes] at same
      obtain ⟨rfl, rfl⟩ := List.cons.inj same
      have marked : next 0xEF (0xBB :: 0xBF :: rest) = .ok ('\uFEFF', rest) := rfl
      obtain ⟨rfl, _⟩ := Prod.mk.inj (Except.ok.inj (marked.symm.trans read))
      rfl

/-- No byte of the mark of a byte order opens encoded text. -/
theorem Utf8.not_prefix_encode (order : Utf16.ByteOrder) (s : List Char) :
    ¬order.mark <+: encode s := by
  rintro ⟨rest, same⟩
  cases s with
  | nil => cases order <;> cases same
  | cons c s =>
      obtain ⟨first, more, bytes, read⟩ := next_encodeChar c (encode s)
      rw [encode, List.flatMap_cons, ← encode, bytes] at same
      cases order with
      | little =>
          obtain ⟨rfl, rfl⟩ := List.cons.inj same
          cases read
      | big =>
          obtain ⟨rfl, rfl⟩ := List.cons.inj same
          cases read

theorem Utf8.not_prefix_mark (order : Utf16.ByteOrder) (rest : List UInt8) :
    ¬order.mark <+: mark ++ rest := by
  rintro ⟨others, same⟩
  cases order <;> cases same

/-! ## Decoding documents -/

theorem decodeText_eq_ok_iff {bytes : List UInt8} {text : String} :
    decodeText bytes = .ok text ↔ bytes = Utf8.encode text.toList := by
  unfold decodeText
  cases read : Utf8.decode bytes with
  | error fault =>
      refine ⟨fun found => (by cases found), fun same => ?_⟩
      rw [same, Utf8.decode_encode] at read
      cases read
  | ok s =>
      have same := Utf8.decode_eq_ok_iff.mp read
      constructor
      · intro found
        cases found
        rw [String.toList_ofList, same]
      · intro held
        rw [held, Utf8.decode_encode] at read
        cases read
        exact congrArg Except.ok String.ofList_toList

/-- Whether bytes encode a text in UTF-8. -/
def IsText (bytes : List UInt8) : Prop :=
  ∃ text, bytes = encodeText text

theorem exists_decodeText_eq_ok_iff {bytes : List UInt8} :
    (∃ text, decodeText bytes = .ok text) ↔ IsText bytes :=
  exists_congr fun _ => decodeText_eq_ok_iff

/-- Behind an optional mark of its own, a document is encoded in UTF-8. -/
theorem decodeMarked_eq_ok_iff {bytes : List UInt8} {text : String} :
    decodeMarked bytes = .ok text ↔ bytes = Utf8.mark ++ Utf8.encode text.toList ∨
      ¬Utf8.mark <+: bytes ∧ bytes = Utf8.encode text.toList := by
  rw [decodeMarked, decodeText_eq_ok_iff]
  by_cases opened : Utf8.mark <+: bytes
  · obtain ⟨rest, rfl⟩ := opened
    have own : Utf8.mark <+: Utf8.mark ++ rest := ⟨rest, rfl⟩
    rw [Utf8.dropMark_mark, List.append_cancel_left_eq]
    simp [own]
  · have other : bytes ≠ Utf8.mark ++ Utf8.encode text.toList := by
      rintro rfl
      exact opened ⟨_, rfl⟩
    rw [Utf8.dropMark_of_unmarked opened]
    simp [opened, other]

/-- **A document is decoded to the text that it holds, and nothing else is decoded.** -/
theorem decodeDocument_eq_ok_iff {bytes : List UInt8} {text : String} :
    decodeDocument bytes = .ok text ↔ IsDocument bytes text := by
  unfold decodeDocument
  cases found : Utf16.order? bytes with
  | none =>
      have unordered (order : Utf16.ByteOrder) : ¬order.mark <+: bytes := by
        intro opened
        rw [Utf16.order?_eq_some_iff.mpr opened] at found
        cases found
      refine decodeMarked_eq_ok_iff.trans ⟨?_, ?_⟩
      · rintro (held | ⟨unmarked, held⟩)
        · exact .marked unordered held
        · exact .plain unordered unmarked held
      · rintro (⟨order, held⟩ | ⟨_, held⟩ | ⟨_, unmarked, held⟩)
        · exact absurd ⟨_, held.symm⟩ (unordered order)
        · exact Or.inl held
        · exact Or.inr ⟨unmarked, held⟩
  | some order =>
      have opened := Utf16.order?_eq_some_iff.mp found
      have decoded (s : List Char) := Utf16.decodeDocument_eq_ok_iff (s := s) opened
      constructor
      · intro read
        dsimp only at read
        cases given : Utf16.decodeDocument order bytes with
        | error fault =>
            rw [given] at read
            cases read
        | ok s =>
            rw [given] at read
            cases read
            refine .utf16 order ?_
            rw [String.toList_ofList]
            exact (decoded s).mp given
      · rintro (⟨other, held⟩ | ⟨unordered, _⟩ | ⟨unordered, _⟩)
        · have again := Utf16.order?_eq_some_iff.mpr ⟨_, held.symm⟩
          obtain rfl : order = other := Option.some.inj (found.symm.trans again)
          dsimp only
          rw [(decoded text.toList).mpr held]
          exact congrArg Except.ok String.ofList_toList
        · exact absurd opened (unordered order)
        · exact absurd opened (unordered order)

/-- The ways to write a text to a file that is read back. -/
inductive IsEncoding (text : String) : List UInt8 → Prop
  | utf8 : IsEncoding text (Utf8.encode text.toList)
  | utf8Marked : IsEncoding text (Utf8.mark ++ Utf8.encode text.toList)
  | utf16 (order : Utf16.ByteOrder) :
      IsEncoding text (order.mark ++ Utf16.encode order text.toList)

/-- A text that does not open with the character of the mark can be written in every way. -/
theorem IsEncoding.isDocument {text : String} {bytes : List UInt8}
    (encoded : IsEncoding text bytes) (unmarked : text.toList.head? ≠ some '\uFEFF') :
    IsDocument bytes text := by
  cases encoded with
  | utf8 =>
      exact .plain (fun order => Utf8.not_prefix_encode order _)
        (fun opened => unmarked (Utf8.head?_of_mark_prefix opened)) rfl
  | utf8Marked => exact .marked (fun order => Utf8.not_prefix_mark order _) rfl
  | utf16 order => exact .utf16 order rfl

end CommandDocs.Text

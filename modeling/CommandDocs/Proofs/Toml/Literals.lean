import CommandDocs.Proofs.Toml.Numerals
import CommandDocs.Proofs.Toml.Quoting

/-!
# Literals

A literal is the text of a value that both readers see alike: one reads the value, the other keeps
the text, and both stop at its end.  Everything that is written as a value is a literal.
-/

namespace CommandDocs.Toml

theorem Ends.not_quote {rest : List Char} (ends : Ends rest) : rest.head? ≠ some '"' :=
  ends.head?_ne (by decide)

/-! ## White space -/

/-- What opens with neither white space nor a comment. -/
def Solid (s : List Char) : Prop :=
  ∀ c ∈ s.head?, isSpaceOrFeed c = false ∧ c ≠ '#'

theorem skipSpace_of_solid {s : List Char} (solid : Solid s) : skipSpace s = .ok s := by
  cases s with
  | nil => rw [skipSpace]
  | cons c rest =>
      obtain ⟨dark, mark⟩ := solid c rfl
      rw [skipSpace, if_neg (by simp [dark]), if_neg (by simpa using mark)]

theorem skipSpace_space {s : List Char} (solid : Solid s) : skipSpace (' ' :: s) = .ok s := by
  rw [skipSpace, if_pos (by decide), skipSpace_of_solid solid]

theorem Layout.readSpace_append (fuel : Nat) {space s : List Char}
    (white : ∀ c ∈ space, isSpaceOrFeed c = true) (solid : Solid s) :
    Layout.readSpace (fuel + 1) (space ++ s) = .ok (space, s) := by
  have cut : (space ++ s).takeWhile isSpaceOrFeed = space :=
    Text.takeWhile_append_of_head white fun c opens => (solid c opens).1
  rw [Layout.readSpace.eq_def]
  simp only [cut, List.drop_left]
  split
  · exact absurd rfl (solid '#' rfl).2
  · rfl

/-! ## Arrays of strings -/

def itemsText (items : List String) (rest : List Char) : List Char :=
  separate (items.map writeString) ++ ']' :: rest

theorem solid_writeString (s : String) (rest : List Char) : Solid (writeString s ++ rest) := by
  intro c opens
  rw [writeString_append] at opens
  cases opens
  decide

theorem itemsText_nil (rest : List Char) : itemsText [] rest = ']' :: rest :=
  rfl

theorem itemsText_singleton (item : String) (rest : List Char) :
    itemsText [item] rest = writeString item ++ ']' :: rest :=
  rfl

theorem itemsText_cons (item next : String) (items : List String) (rest : List Char) :
    itemsText (item :: next :: items) rest =
      writeString item ++ ',' :: ' ' :: itemsText (next :: items) rest := by
  simp [itemsText, separate]

theorem solid_itemsText (items : List String) (rest : List Char) : Solid (itemsText items rest) := by
  match items with
  | [] =>
      intro c opens
      cases opens
      decide
  | [item] => exact solid_writeString item _
  | item :: next :: items =>
      rw [itemsText_cons]
      exact solid_writeString item _

theorem solid_cons {c : Char} (dark : isSpaceOrFeed c = false ∧ c ≠ '#') (rest : List Char) :
    Solid (c :: rest) := by
  intro d opens
  cases opens
  exact dark

section Strict

variable (fuel : Nat) (item : String)

theorem readItems_last (rest : List Char) :
    readItems (fuel + 2) (writeString item ++ ']' :: rest) = .ok ([.string item], rest) := by
  have read := readValue_writeString fuel item (show (']' :: rest).head? ≠ some '"' by simp)
  rw [writeString_append] at read ⊢
  rw [readItems]
  · simp only [read, skipSpace_of_solid (solid_cons (c := ']') (by decide) rest)]
  · intro after same
    cases same

theorem readItems_next {rest : List Char} (solid : Solid rest) :
    readItems (fuel + 2) (writeString item ++ ',' :: ' ' :: rest) =
      (readItems (fuel + 1) rest).map fun (items, after) => (.string item :: items, after) := by
  have read := readValue_writeString fuel item
    (show (',' :: ' ' :: rest).head? ≠ some '"' by simp)
  rw [writeString_append] at read ⊢
  rw [readItems]
  · simp only [read, skipSpace_of_solid (solid_cons (c := ',') (by decide) _), skipSpace_space solid]
  · intro after same
    cases same

end Strict

theorem readItems_itemsText (items : List String) (rest : List Char) {fuel : Nat}
    (enough : items.length < fuel) :
    readItems (fuel + 1) (itemsText items rest) = .ok (items.map .string, rest) := by
  induction items generalizing fuel with
  | nil =>
      rw [itemsText_nil, readItems]
      rfl
  | cons item items ih =>
      obtain ⟨fuel, rfl⟩ := Nat.exists_eq_add_one_of_ne_zero (Nat.ne_zero_of_lt enough)
      cases items with
      | nil => exact readItems_last fuel item rest
      | cons next items =>
          rw [itemsText_cons, readItems_next fuel item (solid_itemsText _ _),
            ih (by simpa using enough)]
          rfl

namespace Layout

theorem readValue_bracket (fuel depth : Nat) (rest : List Char) :
    readValue (fuel + 1) depth (']' :: rest) = .error (.unexpected (']' :: rest)) := by
  have wordless : opensNumber (']' :: rest) = false := by
    have ends : endsNumber ']' = true := by decide
    simp [opensNumber, ends]
  rw [readValue.eq_def]
  simp [wordless, isDigit]

section Kept

variable (fuel depth : Nat) {space : List Char} (white : ∀ c ∈ space, isSpaceOrFeed c = true)

theorem readItems_closed (rest : List Char) :
    readItems (fuel + 2) depth true (']' :: rest) = .ok ([']'], rest) := by
  have here := readSpace_append fuel (List.forall_mem_nil _)
    (solid_cons (c := ']') (by decide) rest)
  rw [List.nil_append] at here
  rw [readItems.eq_def]
  simp only [here]
  rfl

theorem readItems_comma (rest : List Char) :
    readItems (fuel + 2) depth true (',' :: rest) =
      (readItems (fuel + 1) depth false rest).map fun (text, after) => (',' :: text, after) := by
  have here := readSpace_append fuel (List.forall_mem_nil _)
    (solid_cons (c := ',') (by decide) rest)
  rw [List.nil_append] at here
  rw [readItems.eq_def]
  simp only [here, if_true, List.nil_append]
  cases readItems (fuel + 1) depth false rest <;> rfl

include white

theorem readItems_none (rest : List Char) :
    readItems (fuel + 2) depth false (space ++ ']' :: rest) = .ok (space ++ [']'], rest) := by
  have here := readSpace_append fuel white (solid_cons (c := ']') (by decide) rest)
  rw [readItems.eq_def]
  simp only [here, Bool.false_eq_true, if_false, readValue_bracket]
  rfl

theorem readItems_item (item : String) {rest : List Char} (apart : rest.head? ≠ some '"') :
    readItems (fuel + 2) depth false (space ++ (writeString item ++ rest)) =
      (readItems (fuel + 1) depth true rest).map fun (text, after) =>
        (space ++ (writeString item ++ text), after) := by
  have here := readSpace_append fuel white (solid_writeString item rest)
  have read := readValue_writeString fuel depth item apart
  rw [readItems.eq_def]
  simp only [here, Bool.false_eq_true, if_false, read]
  cases readItems (fuel + 1) depth true rest <;> rfl

end Kept

/-- The items of a written array keep their spelling, and so does a space before them. -/
theorem readItems_itemsText (depth : Nat) (items : List String) (rest : List Char)
    {space : List Char} (white : ∀ c ∈ space, isSpaceOrFeed c = true) {fuel : Nat}
    (enough : 2 * items.length < fuel) :
    readItems (fuel + 1) depth false (space ++ itemsText items rest) =
      .ok (space ++ (separate (items.map writeString) ++ [']']), rest) := by
  induction items generalizing fuel space with
  | nil =>
      obtain ⟨fuel, rfl⟩ := Nat.exists_eq_add_one_of_ne_zero (Nat.ne_zero_of_lt enough)
      exact readItems_none fuel depth white rest
  | cons item items ih =>
      obtain ⟨fuel, rfl⟩ : ∃ more, fuel = more + 2 := ⟨fuel - 2, by simp at enough; omega⟩
      cases items with
      | nil =>
          rw [itemsText_singleton, readItems_item (fuel + 1) depth white item (by simp),
            readItems_closed]
          rfl
      | cons next items =>
          rw [itemsText_cons, readItems_item (fuel + 1) depth white item (by simp),
            readItems_comma]
          have white : ∀ c ∈ [' '], isSpaceOrFeed c = true := by
            simp
            decide
          have room : 2 * (next :: items).length < fuel := by
            simp at enough ⊢
            omega
          have later := ih white room
          rw [List.singleton_append] at later
          rw [later]
          simp [separate, Except.map]

end Layout

/-! ## Literals -/

/-- A text that both readers see as a value and leave at the same place. -/
structure IsLiteral (text : List Char) (content : Value) : Prop where
  opens : ∃ c rest, text = c :: rest ∧ Text.isGap c = false ∧ c ≠ '='
  single : '\r' ∉ text
  read : ∀ fuel rest, 2 * text.length < fuel → Ends rest →
    readValue fuel (text ++ rest) = .ok (content, rest)
  kept : ∀ fuel rest, 2 * text.length < fuel → Ends rest →
    Layout.readValue fuel Layout.depthLimit (text ++ rest) = .ok (⟨text, []⟩, rest)

theorem isLiteral_writeString (s : String) : IsLiteral (writeString s) (.string s) where
  opens := ⟨'"', s.toList.flatMap writeChar ++ ['"'], rfl, by decide, by decide⟩
  single member := absurd (not_isControl_of_mem_writeString member) (by decide)
  read fuel rest enough ends := by
    obtain ⟨fuel, rfl⟩ := Nat.exists_eq_add_one_of_ne_zero (Nat.ne_zero_of_lt enough)
    exact readValue_writeString fuel s ends.not_quote
  kept fuel rest enough ends := by
    obtain ⟨fuel, rfl⟩ := Nat.exists_eq_add_one_of_ne_zero (Nat.ne_zero_of_lt enough)
    exact Layout.readValue_writeString fuel _ s ends.not_quote

theorem isLiteral_writeInteger {n : Int} (writable : Text.isWritable n = true) :
    IsLiteral (writeInteger n) (.integer n) where
  opens := by
    obtain ⟨c, rest, same, first⟩ := exists_writeInteger_eq_cons n
    refine ⟨c, rest, same, ?_⟩
    rcases first with rfl | digit
    · decide
    · exact forall_isDigit (P := fun c => Text.isGap c = false ∧ c ≠ '=') (by decide) digit
  single member := by
    rcases mem_writeInteger member with impossible | digit
    · cases impossible
    · cases digit
  read fuel rest enough ends := by
    obtain ⟨fuel, rfl⟩ := Nat.exists_eq_add_one_of_ne_zero (Nat.ne_zero_of_lt enough)
    exact readValue_writeInteger writable ends fuel
  kept fuel rest enough ends := by
    obtain ⟨fuel, rfl⟩ := Nat.exists_eq_add_one_of_ne_zero (Nat.ne_zero_of_lt enough)
    exact Layout.readValue_writeInteger writable ends fuel _

/-- Every item has its quotes. -/
theorem length_separate (items : List String) :
    2 * items.length ≤ (separate (items.map writeString)).length := by
  have quoted (item : String) : 2 ≤ (writeString item).length := by
    simp [writeString]
  induction items with
  | nil => simp
  | cons item items ih =>
      have own := quoted item
      cases items with
      | nil => simpa [separate] using own
      | cons next items =>
          simp only [List.map_cons, separate, List.length_append, List.length_cons] at ih ⊢
          omega

theorem mem_separate {c : Char} {pieces : List (List Char)} (member : c ∈ separate pieces) :
    c = ',' ∨ c = ' ' ∨ ∃ piece ∈ pieces, c ∈ piece := by
  induction pieces with
  | nil => cases member
  | cons piece pieces ih =>
      cases pieces with
      | nil => exact Or.inr (Or.inr ⟨piece, List.mem_cons_self, member⟩)
      | cons next pieces =>
          simp only [separate, List.mem_append, List.mem_cons] at member
          rcases member with own | rfl | rfl | later
          · exact Or.inr (Or.inr ⟨piece, List.mem_cons_self, own⟩)
          · exact Or.inl rfl
          · exact Or.inr (Or.inl rfl)
          · rcases ih later with comma | space | ⟨other, among, own⟩
            · exact Or.inl comma
            · exact Or.inr (Or.inl space)
            · exact Or.inr (Or.inr ⟨other, List.mem_cons_of_mem piece among, own⟩)

theorem writeStrings_append (items : List String) (rest : List Char) :
    writeStrings items ++ rest = '[' :: itemsText items rest := by
  simp [writeStrings, itemsText]

theorem readValue_writeStrings (items : List String) (rest : List Char) {fuel : Nat}
    (enough : items.length < fuel) :
    readValue (fuel + 2) (writeStrings items ++ rest) = .ok (.array (items.map .string), rest) := by
  rw [writeStrings_append, readValue]
  simp only [skipSpace_of_solid (solid_itemsText items rest),
    readItems_itemsText items rest enough]
  rfl

theorem Layout.readValue_writeStrings (depth : Nat) (items : List String) (rest : List Char)
    {fuel : Nat} (enough : 2 * items.length < fuel) :
    readValue (fuel + 2) (depth + 1) (writeStrings items ++ rest) =
      .ok (⟨writeStrings items, []⟩, rest) := by
  have inside := readItems_itemsText depth items rest (List.forall_mem_nil _) enough
  rw [List.nil_append, List.nil_append] at inside
  rw [writeStrings_append, readValue.eq_def]
  simp [inside, writeStrings, Except.map]

theorem isLiteral_writeStrings (items : List String) :
    IsLiteral (writeStrings items) (.array (items.map .string)) where
  opens := ⟨'[', separate (items.map writeString) ++ [']'], rfl, by decide, by decide⟩
  single member := by
    simp only [writeStrings, List.cons_append, List.mem_cons, List.mem_append, List.not_mem_nil,
      or_false] at member
    rcases member with impossible | inside | impossible
    · cases impossible
    · rcases mem_separate inside with impossible | impossible | ⟨piece, among, own⟩
      · cases impossible
      · cases impossible
      · obtain ⟨item, _, rfl⟩ := List.mem_map.mp among
        exact absurd (not_isControl_of_mem_writeString own) (by decide)
    · cases impossible
  read fuel rest enough ends := by
    have long := length_separate items
    simp only [writeStrings, List.length_cons, List.length_append, List.cons_append] at enough
    obtain ⟨fuel, rfl⟩ : ∃ more, fuel = more + 2 := ⟨fuel - 2, by omega⟩
    exact readValue_writeStrings items rest (by omega)
  kept fuel rest enough ends := by
    have long := length_separate items
    simp only [writeStrings, List.length_cons, List.length_append, List.cons_append] at enough
    obtain ⟨fuel, rfl⟩ : ∃ more, fuel = more + 2 := ⟨fuel - 2, by omega⟩
    exact Layout.readValue_writeStrings _ items rest (by omega)

end CommandDocs.Toml

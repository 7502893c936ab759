import CommandDocs.Proofs.Toml.Flat.Rows
import CommandDocs.Proofs.Toml.Tables

/-!
# Flat documents as the strict reader sees them

A flat document is read row by row.  What it defines is the table of its entries, in the order of
the rows.
-/

namespace CommandDocs.Toml

/-! ## Rows one after the other -/

section Order

variable {row : Row} {rest : List Row}

theorem Orderly.tail (orderly : Orderly (row :: rest)) : Orderly rest := by
  cases rest with
  | nil => trivial
  | cons next rest => exact orderly.2

theorem rowsText_cons (row : Row) (rest : List Row) :
    rowsText (row :: rest) = row.line.text ++ (row.feed ++ rowsText rest) := by
  simp [rowsText, Row.text]

/-- Each row is followed by the next one. -/
theorem Orderly.follows (orderly : Orderly (row :: rest)) :
    Follows (row.feed ++ rowsText rest) (rowsText rest) := by
  cases closed : row.closed with
  | true =>
      rw [Row.feed, if_pos closed]
      exact .feed _
  | false =>
      cases rest with
      | nil =>
          rw [Row.feed, if_neg (by simp [closed])]
          exact .nothing
      | cons next rest =>
          have ended := orderly.1
          rw [closed] at ended
          cases ended

theorem Row.text_ne_nil_of_closed (closed : row.closed = true) : row.text ≠ [] := by
  simp [Row.text, Row.feed, closed]

/-- Each row shows. -/
theorem Orderly.text_ne_nil (orderly : Orderly (row :: rest)) : row.text ≠ [] := by
  cases rest with
  | nil => exact orderly
  | cons next rest => exact Row.text_ne_nil_of_closed orderly.1

theorem Orderly.length_lt (orderly : Orderly (row :: rest)) :
    (rowsText rest).length < (rowsText (row :: rest)).length := by
  have shown := List.length_pos_iff.mpr orderly.text_ne_nil
  simp only [rowsText, List.flatMap_cons, List.length_append]
  omega

end Order

/-! ## The items of the rows -/

def Entry.item (e : Entry) : Item :=
  .entry [e.name] e.content

/-- One row is read, and then the others. -/
theorem itemsOf_rowsText {rows : List Row} (orderly : Orderly rows) {fuel : Nat}
    (enough : (rowsText rows).length ≤ fuel) :
    itemsOf fuel (rowsText rows) = ((entriesOf rows).map Entry.item, none) := by
  induction rows generalizing fuel with
  | nil => cases fuel <;> rfl
  | cons row rest ih =>
      have shorter := orderly.length_lt
      obtain ⟨fuel, rfl⟩ : ∃ less, fuel = less + 1 := ⟨fuel - 1, by omega⟩
      have read := readItem_line row.line orderly.follows
      have less : (rowsText rest).length ≤ fuel := by omega
      have later := ih orderly.tail less
      rw [← rowsText_cons] at read
      rw [itemsOf, read]
      · simp only [later]
        cases shown : row.line.entry? <;> simp [entriesOf, shown, Entry.item]
      · intro empty
        rw [empty] at shorter
        simp at shorter

/-! ## The table of the entries -/

/-- That nothing has been said yet but entries with one key. -/
structure Content.IsPlain (c : Content) : Prop where
  here : c.here = []
  closed : ∀ p ∈ c.closed, p ≠ []

theorem Content.isPlain_empty : ({} : Content).IsPlain where
  here := rfl
  closed := by simp

/-- An entry with one key that is still free comes last. -/
theorem Content.addEntry?_of_isPlain {c : Content} (plain : c.IsPlain) {name : String}
    (free : find? name c.root = none) (value : Value) :
    ∃ next : Content, c.addEntry? [name] value = some next ∧ next.IsPlain ∧
      next.root = c.root ++ [(name, value)] := by
  have below : isBelow c.closed [] = false := by
    rw [isBelow, List.any_eq_false]
    intro p member
    simpa using plain.closed p member
  unfold addEntry?
  simp only [between, splitLast, plain.here, List.append_nil, List.any_nil, below, Bool.or_false,
    Bool.false_eq_true, if_false, changeAt?, define?, free, assign_of_find?_eq_none free,
    Option.map_some, List.nil_append]
  refine ⟨_, rfl, ⟨rfl, ?_⟩, rfl⟩
  intro p member
  dsimp only at member
  split at member
  · rcases List.mem_cons.mp member with rfl | old
    · exact List.cons_ne_nil name []
    · exact plain.closed p old
  · exact plain.closed p member

/-- Entries with different keys are added one after the other. -/
theorem Content.addAll_of_isPlain {c : Content} (plain : c.IsPlain) {entries : List Entry}
    (distinct : (keysOf c.root ++ entries.map Entry.name).Nodup) :
    ∃ last : Content, c.addAll (entries.map Entry.item) = .ok last ∧
      last.root = c.root ++ entries.map fun e => (e.name, e.content) := by
  induction entries generalizing c with
  | nil => exact ⟨c, rfl, by simp⟩
  | cons e entries ih =>
      have free : find? e.name c.root = none := by
        rw [find?_eq_none_iff]
        intro member
        exact (List.nodup_append.mp distinct).2.2 e.name member e.name List.mem_cons_self rfl
      obtain ⟨next, added, still, grown⟩ := addEntry?_of_isPlain plain free e.content
      have others : (keysOf next.root ++ entries.map Entry.name).Nodup := by
        rw [grown]
        simpa [keysOf] using distinct
      obtain ⟨last, all, root⟩ := ih still others
      refine ⟨last, ?_, ?_⟩
      · rw [List.map_cons, addAll]
        simp only [add?, Entry.item, added]
        exact all
      · rw [root, grown, List.map_cons, List.append_assoc, List.singleton_append]

theorem readDocument_rowsText {rows : List Row} (flat : IsFlat rows) :
    readDocument (rowsText rows) = .ok (tableOf rows) := by
  have distinct : (keysOf ({} : Content).root ++ (entriesOf rows).map Entry.name).Nodup := by
    simpa [keysOf] using flat.distinct
  obtain ⟨last, all, root⟩ := Content.addAll_of_isPlain Content.isPlain_empty distinct
  unfold readDocument
  simp only [itemsOf_rowsText flat.orderly (Nat.le_refl _), all]
  rw [root]
  rfl

theorem not_return_of_rowsText (rows : List Row) : '\r' ∉ rowsText rows := by
  have space {gap : List Char} (white : IsSpace gap) : '\r' ∉ gap :=
    fun member => absurd (white _ member) (by decide)
  have words {s : List Char} (legal : IsWords s) : '\r' ∉ s :=
    fun member => absurd (legal _ member) (by decide)
  have ends {tail : List Char} (ended : IsTail tail) : '\r' ∉ tail := by
    cases ended with
    | space white => exact space white
    | remark white legal => simp [space white, words legal]
  intro member
  obtain ⟨⟨line, closed⟩, _, own⟩ := List.mem_flatMap.mp member
  have fed : '\r' ∉ Row.feed ⟨line, closed⟩ := by
    cases closed <;> simp [Row.feed]
  rcases List.mem_append.mp own with shown | last
  · cases line with
    | blank gap white => exact space white shown
    | remark gap others white legal => simp [Line.text, space white, words legal] at shown
    | entry e =>
        simp [Line.text, Entry.lead, space e.indented, e.key.single, space e.spaced,
          e.literal.single, ends e.ended] at shown
  · exact fed last

theorem readTable_rowsText {rows : List Row} (flat : IsFlat rows) :
    readTable (String.ofList (rowsText rows)) = .ok (tableOf rows) := by
  rw [readTable, String.toList_ofList, Text.dropReturns_of_not_mem (not_return_of_rowsText rows),
    readDocument_rowsText flat]

end CommandDocs.Toml

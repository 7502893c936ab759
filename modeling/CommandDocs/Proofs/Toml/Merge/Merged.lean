import CommandDocs.Proofs.Text.Breaks
import CommandDocs.Proofs.Toml.Merge.Effects

/-!
# Merging into a document

Entries are merged into a document when it has their values, everything else that it had, and
every comment outside of the values that they replace.  Setting keys at the top does so exactly
when the document, written as it is kept, is still what it was.
-/

namespace CommandDocs.Toml

def linesIn (text : String) : List Cut :=
  (cuts (Text.dropReturns text.toList)).1

/-- Whether a text is a document that holds some entries, and what a table holds for all other
keys. -/
def Overrides (entries t : Table) (new : String) : Prop :=
  ∃ u, readTable new = .ok u ∧ ∀ key, find? key u = (find? key entries).or (find? key t)

/-- Whether a text is a document into which entries have been merged: it has their values and
those of an old document for all other keys, and the comments of the old document, but for those
inside of the values that are replaced. -/
def Merges (entries : Table) (old new : String) : Prop :=
  ∃ t u, readTable old = .ok t ∧ readTable new = .ok u ∧
    (∀ key, find? key u = (find? key entries).or (find? key t)) ∧
    remarksOn [] (linesIn new) =
      remarksOn ((keysOf entries).map fun key => [key]) (linesIn old)

theorem merges_iff_overrides {entries t : Table} {old new : String}
    (valid : readTable old = .ok t) : Merges entries old new ↔ Overrides entries t new ∧
      remarksOn [] (linesIn new) =
        remarksOn ((keysOf entries).map fun key => [key]) (linesIn old) := by
  constructor
  · rintro ⟨t, u, read, made, found, same⟩
    rw [valid] at read
    cases read
    exact ⟨⟨u, made, found⟩, same⟩
  · rintro ⟨⟨u, made, found⟩, same⟩
    exact ⟨t, u, valid, made, found, same⟩

/-- A document stays what it is with other line ends. -/
theorem merges_nil_of_eq {old new : String} {t : Table} (valid : readTable old = .ok t)
    (same : Text.dropReturns new.toList = Text.dropReturns old.toList) : Merges [] old new := by
  refine ⟨t, t, valid, ?_, fun key => rfl, ?_⟩
  · rw [readTable, same]
    exact valid
  · rw [linesIn, same]
    rfl

/-- A document of lines on which both readers agree, and of what stands from the first header on.
It has no carriage returns. -/
structure IsHeaded (strips : List Strip) (body : List Char) : Prop where
  ordered : Ordered (body = []) strips
  kept : ∀ f ∈ Layout.fieldsOn strips, Layout.Keeps f
  opens : body = [] ∨ ∃ inside, body.dropWhile Text.isGap = '[' :: inside
  single : '\r' ∉ stripsText strips ++ body

/-! ## Rows -/

def Line.piece : Line → Piece
  | .blank gap white => .blank gap white
  | .remark gap words white legal => .remark gap words white legal
  | .entry e => .field e.kept

def Row.strip (row : Row) : Strip :=
  ⟨row.line.piece, row.closed⟩

theorem Row.text_strip (row : Row) : row.strip.text = row.text := by
  obtain ⟨line, closed⟩ := row
  cases line <;> rfl

theorem stripsText_map_strip (rows : List Row) :
    stripsText (rows.map Row.strip) = rowsText rows := by
  rw [stripsText, rowsText, List.flatMap_map]
  exact congrArg (rows.flatMap ·) (funext Row.text_strip)

theorem Orderly.ordered {rows : List Row} (orderly : Orderly rows) {ends : Prop}
    (shut : ends ∨ ∀ row ∈ rows, row.closed = true) : Ordered ends (rows.map Row.strip) := by
  induction rows with
  | nil => trivial
  | cons row rest ih =>
      refine ⟨?_, ih orderly.tail (shut.imp_right fun closed => (List.forall_mem_cons.mp closed).2)⟩
      by_cases closed : row.closed = true
      · exact .inl closed
      · have ended := shut.resolve_right fun all => closed (all row List.mem_cons_self)
        have text : row.strip.piece.text = row.strip.text := by
          simp [Strip.text, Strip.feed, Row.strip, closed]
        cases rest with
        | nil =>
            refine .inr ⟨?_, rfl, ended⟩
            rw [text, row.text_strip]
            exact orderly
        | cons next rest => exact absurd orderly.1 closed

/-- Both readers agree on rows. -/
theorem isHeaded_rows {rows : List Row} {body : List Char} (orderly : Orderly rows)
    (shut : body = [] ∨ ∀ row ∈ rows, row.closed = true)
    (opens : body = [] ∨ ∃ inside, body.dropWhile Text.isGap = '[' :: inside)
    (single : '\r' ∉ body) : IsHeaded (rows.map Row.strip) body where
  ordered := orderly.ordered shut
  kept f member := by
    obtain ⟨strip, among, held⟩ := List.mem_filterMap.mp member
    obtain ⟨⟨line, closed⟩, -, rfl⟩ := List.mem_map.mp among
    cases line with
    | entry e =>
        cases held
        exact Layout.keeps_entry e
    | _ => cases held
  opens := opens
  single := by
    rw [stripsText_map_strip]
    exact List.not_mem_append (not_return_of_rowsText rows) single

/-! ## Reading a document -/

/-- A document is read with certain values when its lines yield them. -/
theorem exists_readDocument_iff {s : List Char} {values : String → Option Value} :
    (∃ t, readDocument s = .ok t ∧ ∀ key, find? key t = values key) ↔
      (cuts s).2 = none ∧ Yields (itemsIn (cuts s).1) values := by
  constructor
  · rintro ⟨t, read, found⟩
    obtain ⟨whole, c, all, rfl⟩ := readDocument_eq_ok_iff.mp read
    exact ⟨whole, c, all, found⟩
  · rintro ⟨whole, c, all, found⟩
    exact ⟨c.root, readDocument_eq_ok_iff.mpr ⟨whole, c, all, rfl⟩, found⟩

theorem nodup_keysOf_of_readTable {text : String} {t : Table} (valid : readTable text = .ok t) :
    (keysOf t).Nodup := by
  obtain ⟨-, c, all, rfl⟩ := readDocument_eq_ok_iff.mp valid
  exact Content.nodup_keysOf_of_addAll key_ne_nil_of_mem_itemsIn all List.nodup_nil

theorem exists_header_of_readItem {s inside rest : List Char} {item : Option Item}
    (opens : s.dropWhile Text.isGap = '[' :: inside) (read : readItem s = .ok (item, rest)) :
    ∃ array key, item = some (.header array key) := by
  unfold readItem at read
  rw [opens] at read
  simp only at read
  split at read
  · cases read
  · obtain ⟨after, -, same⟩ := exists_of_map_eq_ok read
    cases same
    exact ⟨_, _, rfl⟩

/-- Nothing is left out of the comments from the first header on. -/
theorem remarksOn_of_opens (out : List (List String)) {body : List Char}
    (opens : body = [] ∨ ∃ inside, body.dropWhile Text.isGap = '[' :: inside) :
    remarksOn out (cuts body).1 = remarksOn [] (cuts body).1 := by
  by_cases empty : body = []
  · rw [empty]
    rfl
  · obtain impossible | ⟨inside, bracket⟩ := opens
    · exact absurd impossible empty
    · cases read : readItem body with
      | error fault => rw [cuts_of_readItem_error empty read, remarksOn, remarksOn]
      | ok found =>
          obtain ⟨item, rest⟩ := found
          obtain ⟨array, key, rfl⟩ := exists_header_of_readItem bracket read
          rw [cuts_of_readItem empty read]
          rfl

/-! ## Merging -/

section Document

variable {strips lines : List Strip} {body kept : List Char} {ends : Prop}

/-- The lines of a document of which the first ones are known. -/
theorem cuts_dropReturns (ordered : Ordered ends strips) (empty : ends → body = [])
    (single : '\r' ∉ stripsText strips) :
    cuts (Text.dropReturns (stripsText strips ++ body)) =
      (strips.map Strip.cut ++ (cuts (Text.dropReturns body)).1,
        (cuts (Text.dropReturns body)).2) := by
  rw [Text.dropReturns_append single]
  refine cuts_stripsText ordered fun ended => ?_
  rw [empty ended]
  rfl

theorem itemsIn_strips (strips : List Strip) (rest : List Cut) :
    itemsIn (strips.map Strip.cut ++ rest) = itemsOn strips ++ itemsIn rest := by
  rw [itemsIn_append, itemsIn_map_cut]

theorem IsHeaded.unifyBreaks_eq (headed : IsHeaded strips body) {s : List Char}
    (laid : Text.dropReturns s = stripsText strips ++ body) :
    Text.unifyBreaks s = stripsText strips ++ body := by
  rw [Text.unifyBreaks_of_dropReturns, laid]
  rw [laid]
  exact headed.single

/-- The lines of a document yield its table. -/
theorem IsHeaded.yields (headed : IsHeaded strips body) {s : List Char} {t : Table}
    (laid : Text.dropReturns s = stripsText strips ++ body)
    (valid : readDocument (Text.dropReturns s) = .ok t) :
    Yields (itemsOn strips ++ itemsIn (cuts body).1) (find? · t) := by
  have found : ∃ u, readDocument (Text.dropReturns s) = .ok u ∧
      ∀ key, find? key u = find? key t := ⟨t, valid, fun _ => rfl⟩
  have made := exists_readDocument_iff.mp found
  rw [laid, cuts_stripsText headed.ordered id, itemsIn_strips] at made
  exact made.2

/-- When a text with known first lines holds some entries over a table. -/
theorem overrides_iff_yields {t entries : Table} (ordered : Ordered ends lines)
    (empty : ends → kept = []) (single : '\r' ∉ stripsText lines) :
    Overrides entries t (String.ofList (stripsText lines ++ kept)) ↔
      (cuts (Text.dropReturns kept)).2 = none ∧
        Yields (itemsOn lines ++ itemsIn (cuts (Text.dropReturns kept)).1) fun key =>
          (find? key entries).or (find? key t) := by
  have yields : (∃ u, readDocument (Text.dropReturns (stripsText lines ++ kept)) = .ok u ∧
      ∀ key, find? key u = (find? key entries).or (find? key t)) ↔ _ :=
    exists_readDocument_iff
  rw [cuts_dropReturns ordered empty single, itemsIn_strips] at yields
  rw [← yields, Overrides, readTable, String.toList_ofList]

/-- When a text with known first lines has the comments of a document, but for those that are left
out. -/
theorem remarksOn_linesIn_iff {out : List (List String)} {old : String}
    (headed : IsHeaded strips body)
    (laid : Text.dropReturns old.toList = stripsText strips ++ body) (ordered : Ordered ends lines)
    (empty : ends → kept = []) (single : '\r' ∉ stripsText lines)
    (remarked : lines.flatMap (Strip.remarks []) = strips.flatMap (Strip.remarks out)) :
    remarksOn [] (linesIn (String.ofList (stripsText lines ++ kept))) =
        remarksOn out (linesIn old) ↔
      remarksOn [] (cuts (Text.dropReturns kept)).1 = remarksOn [] (cuts body).1 := by
  rw [linesIn, linesIn, String.toList_ofList, cuts_dropReturns ordered empty single, laid,
    cuts_stripsText headed.ordered id, remarksOn_append, remarksOn_append, remarked,
    List.append_cancel_left_eq, remarksOn_of_opens out headed.opens]

section Changed

variable {t entries : Table} {feeds : Nat} {old : String}

theorem not_return_replicate (feeds : Nat) : '\r' ∉ List.replicate feeds '\n' := fun member => by
  have same := List.eq_of_mem_replicate member
  cases same

theorem feeds_append_eq_nil (empty : ends → kept = []) (fed : ends → feeds = 0) :
    ends → List.replicate feeds '\n' ++ kept = [] := fun ended => by
  rw [fed ended, empty ended]
  rfl

/-- Changing the lines before the first header makes a document hold some entries over its table
exactly when the document as it is kept holds this table: when what follows these lines has not
changed. -/
theorem overrides_iff (before : Ordered ends strips) (after : Ordered ends lines)
    (empty : ends → kept = []) (fed : ends → feeds = 0) (first : '\r' ∉ stripsText strips)
    (single : '\r' ∉ stripsText lines)
    (yields : ∀ items : List Item, (∀ item ∈ items, item.key ≠ []) →
      (Yields (itemsOn strips ++ items) (fun key => find? key t) ↔
        Yields (itemsOn lines ++ items) fun key => (find? key entries).or (find? key t))) :
    Overrides entries t
        (String.ofList (stripsText lines ++ (List.replicate feeds '\n' ++ kept))) ↔
      Overrides [] t (String.ofList (stripsText strips ++ kept)) := by
  have named : ∀ item ∈ itemsIn (cuts (Text.dropReturns kept)).1, item.key ≠ [] :=
    key_ne_nil_of_mem_itemsIn
  rw [overrides_iff_yields after (feeds_append_eq_nil empty fed) single,
    overrides_iff_yields before empty first, Text.dropReturns_append (not_return_replicate feeds),
    cuts_replicate, itemsIn_replicate, ← yields _ named]
  rfl

/-- Changing the lines before the first header of a document merges entries into it exactly when
the document as it is kept merges nothing into it. -/
theorem merges_iff (headed : IsHeaded strips body)
    (laid : Text.dropReturns old.toList = stripsText strips ++ body) (valid : readTable old = .ok t)
    (before : Ordered ends strips) (after : Ordered ends lines) (empty : ends → kept = [])
    (fed : ends → feeds = 0) (first : '\r' ∉ stripsText strips) (single : '\r' ∉ stripsText lines)
    (remarked : lines.flatMap (Strip.remarks []) =
      strips.flatMap (Strip.remarks ((keysOf entries).map fun key => [key])))
    (overrides : Overrides entries t
        (String.ofList (stripsText lines ++ (List.replicate feeds '\n' ++ kept))) ↔
      Overrides [] t (String.ofList (stripsText strips ++ kept))) :
    Merges entries old (String.ofList (stripsText lines ++ (List.replicate feeds '\n' ++ kept))) ↔
      Merges [] old (String.ofList (stripsText strips ++ kept)) := by
  rw [merges_iff_overrides valid, merges_iff_overrides valid, overrides]
  change _ ↔ _ ∧ _ = remarksOn [] (linesIn old)
  rw [remarksOn_linesIn_iff headed laid after (feeds_append_eq_nil empty fed) single remarked,
    remarksOn_linesIn_iff headed laid before empty first rfl,
    Text.dropReturns_append (not_return_replicate feeds), cuts_replicate, remarksOn_replicate]

end Changed

end Document

end CommandDocs.Toml

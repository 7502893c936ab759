import CommandDocs.Proofs.Toml.Flat.Strict
import CommandDocs.Toml.Layout.Text
import Mathlib.Data.List.Forall2
import Mathlib.Data.List.Nodup

/-!
# Flat documents as they are kept

The reader that keeps the layout makes one node of each row.  The nodes show the rows: their text
is that of the rows, and nothing is joined.
-/

namespace CommandDocs.Toml

/-- A text that follows itself is empty. -/
theorem Follows.eq_nil {s : List Char} (follows : Follows s s) : s = [] := by
  cases follows
  rfl

theorem pointsOf_injective : Function.Injective pointsOf := by
  intro name other same
  refine String.toList_injective (List.map_injective_iff.mpr ?_ same)
  intro c d points
  exact Char.ext (UInt32.toNat_inj.mp points)

namespace Layout

/-- The nodes that show a row. -/
inductive Shows : Row → Node → Prop where
  | space (gap : List Char) (white : IsSpace gap) (closed : Bool) :
      Shows ⟨.blank gap white, closed⟩ (.space (Row.text ⟨.blank gap white, closed⟩))
  | remark (gap words : List Char) (white : IsSpace gap) (legal : IsWords words) (closed : Bool) :
      Shows ⟨.remark gap words white legal, closed⟩
        (.remark (Row.text ⟨.remark gap words white legal, closed⟩))
  | entry (e : Entry) (closed : Bool) {part : Part} (named : part.name = pointsOf e.name) :
      Shows ⟨.entry e, closed⟩
        (.entry part e.lead e.value (e.tail ++ Row.feed ⟨.entry e, closed⟩))

/-! ## Reading a row -/

section Tails

variable {after rest : List Char} (follows : Follows after rest)
include follows

/-- What stands on a row after an entry is kept. -/
theorem readTail_tail {tail : List Char} (ended : IsTail tail) :
    ∃ t : Tail, readTail (tail ++ after) = .ok (t, rest) ∧ t.text [] ++ rest = tail ++ after := by
  unfold readTail
  cases ended with
  | space white =>
      rw [dropWhile_space white follows.not_gap, takeWhile_space white follows.not_gap]
      cases follows with
      | feed => exact ⟨_, rfl, by simp [Tail.text]⟩
      | nothing => exact ⟨_, rfl, by simp [Tail.text]⟩
  | @remark gap words white legal =>
      have mark := not_gap_cons (d := '#') rfl (words ++ after)
      rw [List.append_assoc, List.cons_append, dropWhile_space white mark,
        takeWhile_space white mark]
      simp only [takeWhile_words legal follows, dropWhile_words legal follows,
        any_isIllegal_words legal, Bool.false_eq_true, if_false]
      cases follows with
      | feed => exact ⟨_, rfl, by simp [Tail.text]⟩
      | nothing => exact ⟨_, rfl, by simp [Tail.text]⟩

end Tails

theorem readEquals_space {space s : List Char} (white : IsSpace space)
    (dark : ∀ c ∈ s.head?, Text.isGap c = false ∧ c ≠ '=') :
    readEquals ('=' :: (space ++ s)) = .ok ('=' :: space, s) := by
  have inside : ∀ c ∈ '=' :: space, (c == '=' || Text.isGap c) = true := by
    intro c member
    rcases List.mem_cons.mp member with rfl | own
    · rfl
    · simp [white c own]
  have cut : ('=' :: (space ++ s)).takeWhile (fun c => c == '=' || Text.isGap c) = '=' :: space := by
    rw [← List.cons_append]
    refine Text.takeWhile_append_of_head inside ?_
    intro c opens
    obtain ⟨apart, other⟩ := dark c opens
    simp [apart, other]
  have single : space.count '=' = 0 := by
    refine List.count_eq_zero.mpr fun member => ?_
    exact absurd (white _ member) (by decide)
  unfold readEquals
  rw [cut]
  simp [single]

section Rows

theorem readEntry_entry (e : Entry) {after rest : List Char} (follows : Follows after rest)
    {fuel : Nat} (enough : 2 * e.value.length < fuel) :
    ∃ tail : Tail, tail.text [] ++ rest = e.tail ++ after ∧
      readEntry fuel e.indent (e.spelling ++ '=' :: (e.space ++ (e.value ++ (e.tail ++ after)))) =
        .ok (.node (.entry ⟨pointsOf e.name, e.spelling⟩ e.lead e.value (tail.text [])), rest) := by
  obtain ⟨tail, ended, whole⟩ := readTail_tail follows e.ended
  have dark : ∀ c ∈ (e.value ++ (e.tail ++ after)).head?, Text.isGap c = false ∧ c ≠ '=' := by
    obtain ⟨c, others, same, apart⟩ := e.literal.opens
    rw [same]
    intro d opens
    cases opens
    exact apart
  refine ⟨tail, whole, ?_⟩
  unfold readEntry
  rw [e.key.kept]
  simp only [readEquals_space e.spaced dark,
    e.literal.kept fuel _ enough (ends_tail e.ended follows), ended, Except.map, entryNode,
    spellingOf, Entry.lead]

variable {rest : List Char} {closed : Bool}

theorem readLine_remark {gap words : List Char} (white : IsSpace gap) (legal : IsWords words)
    (follows : Follows (Row.feed ⟨.remark gap words white legal, closed⟩ ++ rest) rest)
    (fuel : Nat) :
    readLine fuel ((Line.remark gap words white legal).text ++
        (Row.feed ⟨.remark gap words white legal, closed⟩ ++ rest)) =
      .ok (.node (.remark (Row.text ⟨.remark gap words white legal, closed⟩)), rest) := by
  have bare : IsTail ([] ++ '#' :: words) := .remark (List.forall_mem_nil _) legal
  obtain ⟨tail, ended, whole⟩ := readTail_tail follows bare
  have mark := not_gap_cons (d := '#') rfl
    (words ++ (Row.feed ⟨.remark gap words white legal, closed⟩ ++ rest))
  unfold readLine
  rw [Line.text, List.append_assoc, List.cons_append, dropWhile_space white mark,
    takeWhile_space white mark]
  rw [List.nil_append, List.cons_append] at ended whole
  rw [← List.append_assoc, ← List.cons_append] at whole
  simp only [ended, Except.map, List.append_cancel_right whole]
  simp [Row.text, Line.text]

theorem readLine_entry (e : Entry) (follows : Follows (Row.feed ⟨.entry e, closed⟩ ++ rest) rest)
    {fuel : Nat} (enough : 2 * e.value.length < fuel) :
    readLine fuel ((Line.entry e).text ++ (Row.feed ⟨.entry e, closed⟩ ++ rest)) =
      .ok (.node (.entry ⟨pointsOf e.name, e.spelling⟩ e.lead e.value
        (e.tail ++ Row.feed ⟨.entry e, closed⟩)), rest) := by
  obtain ⟨tail, whole, read⟩ := readEntry_entry e follows enough
  rw [← List.append_assoc] at whole
  rw [List.append_cancel_right whole] at read
  obtain ⟨c, spelling, same, feed, mark, bracket⟩ := e.key.exists_cons
  rw [Entry.text_append]
  unfold readLine
  rw [dropWhile_space e.indented (e.key.not_gap _), takeWhile_space e.indented (e.key.not_gap _)]
  rw [same, List.cons_append] at read ⊢
  split
  · rename_i empty
    cases empty
  · rename_i impossible
    exact absurd (List.cons.inj impossible).1 feed
  · rename_i impossible
    exact absurd (List.cons.inj impossible).1 mark
  · rename_i impossible
    exact absurd (List.cons.inj impossible).1 bracket
  · exact read

theorem readLine_row {row : Row} (follows : Follows (row.feed ++ rest) rest) {fuel : Nat}
    (enough : ∀ e ∈ row.line.entry?, 2 * e.value.length < fuel) :
    ∃ node, readLine fuel (row.line.text ++ (row.feed ++ rest)) = .ok (.node node, rest) ∧
      Shows row node := by
  obtain ⟨line, closed⟩ := row
  cases line with
  | blank gap white =>
      refine ⟨_, ?_, .space gap white closed⟩
      unfold readLine
      rw [Line.text, dropWhile_space white follows.not_gap, takeWhile_space white follows.not_gap]
      cases closed with
      | true => rfl
      | false =>
          rw [show rest = [] from follows.eq_nil]
          simp [Row.text, Row.feed, Line.text]
  | remark gap words white legal =>
      exact ⟨_, readLine_remark white legal follows fuel, .remark gap words white legal closed⟩
  | entry e => exact ⟨_, readLine_entry e follows (enough e rfl), .entry e closed rfl⟩

end Rows

/-! ## Reading a document -/

theorem length_value_lt {row : Row} {e : Entry} (shown : row.line.entry? = some e) :
    e.value.length < row.text.length := by
  obtain ⟨line, closed⟩ := row
  cases line with
  | blank gap white => cases shown
  | remark gap words white legal => cases shown
  | entry own =>
      cases shown
      simp only [Row.text, Line.text, Entry.lead, List.length_append, List.length_cons]
      omega

theorem linesOf?_rowsText {rows : List Row} (orderly : Orderly rows) {fuel : Nat}
    (enough : 3 * (rowsText rows).length + 1 ≤ fuel) :
    ∃ nodes : List Node, linesOf? fuel (rowsText rows) = some (nodes.map .node) ∧
      List.Forall₂ Shows rows nodes := by
  induction rows generalizing fuel with
  | nil => exact ⟨[], by cases fuel <;> rfl, .nil⟩
  | cons row rest ih =>
      have shorter := orderly.length_lt
      obtain ⟨fuel, rfl⟩ : ∃ less, fuel = less + 1 := ⟨fuel - 1, by omega⟩
      have less : 3 * (rowsText rest).length + 1 ≤ fuel := by omega
      obtain ⟨nodes, later, shown⟩ := ih orderly.tail less
      have room : ∀ e ∈ row.line.entry?, 2 * e.value.length < fuel := by
        intro e own
        have small := length_value_lt own
        simp only [rowsText, List.flatMap_cons, List.length_append] at enough
        omega
      obtain ⟨node, read, shows⟩ := readLine_row orderly.follows room
      rw [← rowsText_cons] at read
      refine ⟨node :: nodes, ?_, .cons shows shown⟩
      rw [linesOf?, read]
      · simp [later]
      · intro empty
        rw [empty] at shorter
        simp at shorter

theorem blocksOf_map_node (nodes : List Node) : blocksOf (nodes.map .node) = (nodes, []) := by
  induction nodes with
  | nil => rfl
  | cons node nodes ih => simp [blocksOf, ih]

theorem lastNamed?_eq_none {name : List Nat} {nodes : List Node}
    (absent : name ∉ nodes.filterMap Node.name?) : lastNamed? name nodes = none := by
  induction nodes with
  | nil => rfl
  | cons node nodes ih =>
      have own : node.name? ≠ some name := by
        intro same
        exact absent (List.mem_filterMap.mpr ⟨node, List.mem_cons_self, same⟩)
      have others : name ∉ nodes.filterMap Node.name? := by
        intro member
        obtain ⟨other, among, named⟩ := List.mem_filterMap.mp member
        exact absent (List.mem_filterMap.mpr ⟨other, List.mem_cons_of_mem node among, named⟩)
      simp [lastNamed?, ih others, own]

theorem joinOne?_of_not_mem {node : Node} {nodes : List Node}
    (absent : ∀ name ∈ node.name?, name ∉ nodes.filterMap Node.name?) :
    joinOne? nodes node = some (nodes ++ [node]) := by
  unfold joinOne?
  cases named : node.name? with
  | none => rfl
  | some name => simp [lastNamed?_eq_none (absent name named)]

/-- Nodes with different names stay apart. -/
theorem joinEntries?_of_nodup {done nodes : List Node}
    (dotless : ∀ node ∈ done ++ nodes, node.isDotted = false)
    (distinct : ((done ++ nodes).filterMap Node.name?).Nodup) :
    joinEntries? done nodes = some (done ++ nodes) := by
  induction nodes generalizing done with
  | nil =>
      have plain : done.filter Node.isDotted = [] := by
        rw [List.filter_eq_nil_iff]
        intro node member
        simp [dotless node (by simpa using member)]
      simp [joinEntries?, plain]
  | cons node nodes ih =>
      have apart : done ++ node :: nodes = (done ++ [node]) ++ nodes := by simp
      have absent : ∀ name ∈ node.name?, name ∉ done.filterMap Node.name? := by
        intro name named member
        rw [List.filterMap_append, List.nodup_append] at distinct
        exact distinct.2.2 name member name
          (List.mem_filterMap.mpr ⟨node, List.mem_cons_self, named⟩) rfl
      rw [joinEntries?, joinOne?_of_not_mem absent, Option.bind_some]
      rw [apart] at dotless distinct ⊢
      exact ih dotless distinct

section Shown

variable {rows : List Row} {nodes : List Node}

theorem Shows.not_isDotted {row : Row} {node : Node} (shows : Shows row node) :
    node.isDotted = false := by
  cases shows <;> rfl

theorem Shows.not_opensLine {row : Row} {node : Node} (shows : Shows row node) :
    node.opensLine = false := by
  cases shows <;> rfl

theorem Shows.text {row : Row} {node : Node} (shows : Shows row node) (outer : Option (List Char)) :
    node.text outer = row.text := by
  cases shows with
  | space => simp only [Node.text]
  | remark => simp only [Node.text]
  | entry e closed named => simp [Node.text, Row.text, Line.text]

theorem Shows.name? {row : Row} {node : Node} (shows : Shows row node) :
    node.name? = row.line.entry?.map fun e => pointsOf e.name := by
  cases shows with
  | space => rfl
  | remark => rfl
  | entry e closed named => simp [Node.name?, Line.entry?, named]

variable (shown : List.Forall₂ Shows rows nodes)
include shown

/-- The nodes define what the rows define. -/
theorem filterMap_name?_of_shown :
    nodes.filterMap Node.name? = (entriesOf rows).map fun e => pointsOf e.name := by
  induction shown with
  | nil => rfl
  | @cons row node rows nodes shows shown ih =>
      have own := shows.name?
      cases line : row.line.entry? <;> simp_all [entriesOf]

theorem exists_row_of_shown : ∀ node ∈ nodes, ∃ row, Shows row node := by
  induction shown with
  | nil => simp
  | cons shows shown ih => exact List.forall_mem_cons.mpr ⟨⟨_, shows⟩, ih⟩

theorem textOf_of_shown (opened : Bool) : textOf none opened nodes = rowsText rows := by
  induction shown generalizing opened with
  | nil => simp [textOf, rowsText]
  | cons shows shown ih =>
      simp [textOf, shows.text, shows.not_opensLine, ih, rowsText]

end Shown

theorem readNodes?_rowsText {rows : List Row} (flat : IsFlat rows) :
    ∃ nodes, readNodes? (rowsText rows) = some nodes ∧ List.Forall₂ Shows rows nodes := by
  have enough : 3 * (rowsText rows).length + 1 ≤ readFuel (rowsText rows) := by
    rw [readFuel]
    omega
  obtain ⟨nodes, lines, shown⟩ := linesOf?_rowsText flat.orderly enough
  refine ⟨nodes, ?_, shown⟩
  have distinct : (nodes.filterMap Node.name?).Nodup := by
    rw [filterMap_name?_of_shown shown, ← Function.comp_def pointsOf Entry.name, ← List.map_map]
    exact flat.distinct.map pointsOf_injective
  have dotless : ∀ node ∈ nodes, node.isDotted = false := by
    intro node member
    obtain ⟨row, shows⟩ := exists_row_of_shown shown node member
    exact shows.not_isDotted
  have joined : joinEntries? [] nodes = some ([] ++ nodes) :=
    joinEntries?_of_nodup (by simpa using dotless) (by simpa using distinct)
  unfold readNodes?
  simp [lines, blocksOf_map_node, joined, addBlocks?]

end Layout

end CommandDocs.Toml

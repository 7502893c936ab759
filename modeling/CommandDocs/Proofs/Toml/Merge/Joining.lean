import CommandDocs.Proofs.Outcomes
import CommandDocs.Proofs.Toml.Flat.Kept
import CommandDocs.Proofs.Toml.Merge.Strips

/-!
# Entries and tables as they are kept

The nodes of a document are those of its lines before the first header, and then those that open a
line.  Headers never change what stands before them.
-/

namespace CommandDocs.Toml.Layout

/-! ## The nodes of lines -/

def nodeOf (feed : List Char) : Piece → Node
  | .blank gap _ => .space (gap ++ feed)
  | .remark gap words _ _ => .remark (gap ++ '#' :: words ++ feed)
  | .field f => entryNode f.lead f.value (f.tail ++ feed) f.parts

def nodesOf (strips : List Strip) : List Node :=
  strips.map fun strip => nodeOf strip.feed strip.piece

/-- Whether the reader that keeps the layout sees an entry as it is, whatever follows it. -/
def Keeps (f : Field) : Prop :=
  ∀ fuel after rest, 2 * (f.lead ++ f.value ++ f.tail).length < fuel → Follows after rest →
    readLine fuel (f.lead ++ f.value ++ f.tail ++ after) =
      .ok (.node (entryNode f.lead f.value (f.tail ++ taken after rest) f.parts), rest)

theorem Field.parts_ne_nil (f : Field) : f.parts ≠ [] := by
  intro empty
  have named := f.named
  rw [empty, List.map_nil, eq_comm, List.map_eq_nil_iff] at named
  exact f.shown named

section Entries

variable (lead value tail : List Char)

theorem entryNode_cons (part next : Part) (rest : List Part) :
    entryNode lead value tail (part :: next :: rest) =
      .table part [] .dotted [entryNode lead value tail (next :: rest)] :=
  rfl

theorem not_opensLine_entryNode (parts : List Part) :
    (entryNode lead value tail parts).opensLine = false := by
  match parts with
  | [] => rfl
  | [part] => rfl
  | part :: next :: rest => rfl

theorem name?_entryNode (parts : List Part) :
    (entryNode lead value tail parts).name? = parts.head?.map Part.name := by
  match parts with
  | [] => rfl
  | [part] => rfl
  | part :: next :: rest => rfl

theorem text_entryNode (outer : Option (List Char)) {parts : List Part} (shown : parts ≠ []) :
    (entryNode lead value tail parts).text outer = lead ++ value ++ tail := by
  induction parts generalizing outer with
  | nil => exact absurd rfl shown
  | cons part rest ih =>
      cases rest with
      | nil => simp [entryNode, Node.text]
      | cons next rest =>
          rw [entryNode_cons]
          simp only [Node.text, textOf, List.append_nil, Bool.false_and, Bool.false_eq_true, if_false]
          exact ih _ (List.cons_ne_nil next rest)

end Entries

theorem not_opensLine_nodeOf (feed : List Char) (piece : Piece) :
    (nodeOf feed piece).opensLine = false := by
  cases piece with
  | blank => rfl
  | remark => rfl
  | field f => exact not_opensLine_entryNode _ _ _ _

theorem text_nodeOf (outer : Option (List Char)) (feed : List Char) (piece : Piece) :
    (nodeOf feed piece).text outer = piece.text ++ feed := by
  cases piece with
  | blank gap white => simp only [nodeOf, Node.text, Piece.text]
  | remark gap words white legal => simp only [nodeOf, Node.text, Piece.text]
  | field f =>
      rw [nodeOf, text_entryNode _ _ _ _ (Field.parts_ne_nil f), Piece.text,
        List.append_assoc _ f.tail]

theorem not_opensLine_of_mem_nodesOf {strips : List Strip} :
    ∀ node ∈ nodesOf strips, node.opensLine = false := by
  intro node member
  obtain ⟨strip, -, rfl⟩ := List.mem_map.mp member
  exact not_opensLine_nodeOf _ _

/-- The text of the lines is the same in every table. -/
theorem textOf_nodesOf (outer : Option (List Char)) (opened : Bool) (strips : List Strip) :
    textOf outer opened (nodesOf strips) = stripsText strips := by
  induction strips generalizing opened with
  | nil => simp [nodesOf, textOf, stripsText]
  | cons strip rest ih =>
      rw [nodesOf, List.map_cons, textOf]
      simp only [text_nodeOf, not_opensLine_nodeOf, Bool.and_false, Bool.false_eq_true, if_false]
      exact congrArg (strip.text ++ ·) (ih _)

/-! ## Reading lines -/

/-- A line is kept as its node. -/
theorem readLine_strip {strip : Strip} {rest : List Char}
    (kept : ∀ f ∈ strip.piece.field?, Keeps f) (follows : Follows (strip.feed ++ rest) rest)
    {fuel : Nat} (enough : 2 * strip.text.length < fuel) :
    readLine fuel (strip.piece.text ++ (strip.feed ++ rest)) =
      .ok (.node (nodeOf strip.feed strip.piece), rest) := by
  obtain ⟨piece, closed⟩ := strip
  cases piece with
  | blank gap white =>
      have none : ∀ e ∈ Line.entry? (.blank gap white), 2 * e.value.length < fuel := by
        simp [Line.entry?]
      have follows : Follows (Row.feed ⟨.blank gap white, closed⟩ ++ rest) rest := follows
      obtain ⟨node, read, shows⟩ := readLine_row follows none
      cases shows
      exact read
  | remark gap words white legal =>
      have none : ∀ e ∈ Line.entry? (.remark gap words white legal), 2 * e.value.length < fuel := by
        simp [Line.entry?]
      have follows : Follows (Row.feed ⟨.remark gap words white legal, closed⟩ ++ rest) rest :=
        follows
      obtain ⟨node, read, shows⟩ := readLine_row follows none
      cases shows
      exact read
  | field f =>
      have short : 2 * (f.lead ++ f.value ++ f.tail).length < fuel := by
        simp only [Strip.text, Piece.text, List.length_append] at enough ⊢
        omega
      have read := kept f rfl fuel _ rest short follows
      rwa [taken_append] at read

/-- The fields on some lines. -/
def fieldsOn (strips : List Strip) : List Field :=
  strips.filterMap fun strip => strip.piece.field?

/-- Lines are kept one after the other. -/
theorem linesOf?_stripsText {ends : Prop} {strips : List Strip} {body : List Char}
    (kept : ∀ f ∈ fieldsOn strips, Keeps f) (ordered : Ordered ends strips)
    (empty : ends → body = []) {fuel : Nat}
    (enough : 3 * (stripsText strips ++ body).length + 1 ≤ fuel) :
    ∃ more, 3 * body.length + 1 ≤ more ∧ linesOf? fuel (stripsText strips ++ body) =
      (linesOf? more body).map ((nodesOf strips).map Line.node ++ ·) := by
  induction strips generalizing fuel with
  | nil =>
      refine ⟨fuel, by simpa [stripsText] using enough, ?_⟩
      simp [nodesOf, stripsText]
  | cons strip rest ih =>
      have shown := ordered.text_ne_nil
      have long : (stripsText (strip :: rest) ++ body).length =
          strip.text.length + (stripsText rest ++ body).length := by
        simp [stripsText]
      have positive := List.length_pos_iff.mpr shown
      obtain ⟨fuel, rfl⟩ : ∃ less, fuel = less + 1 := ⟨fuel - 1, by omega⟩
      have own : ∀ f ∈ strip.piece.field?, Keeps f := fun f held =>
        kept f (List.mem_filterMap.mpr ⟨strip, List.mem_cons_self, held⟩)
      have others : ∀ f ∈ fieldsOn rest, Keeps f := by
        intro f member
        obtain ⟨later, among, held⟩ := List.mem_filterMap.mp member
        exact kept f (List.mem_filterMap.mpr ⟨later, List.mem_cons_of_mem strip among, held⟩)
      have short : 2 * strip.text.length < fuel := by omega
      have less : 3 * (stripsText rest ++ body).length + 1 ≤ fuel := by omega
      have read := readLine_strip own (ordered.follows empty) short
      obtain ⟨more, room, later⟩ := ih others ordered.2 less
      have filled : stripsText (strip :: rest) ++ body ≠ [] := by
        simp [stripsText, shown]
      refine ⟨more, room, ?_⟩
      rw [← stripsText_cons] at read
      rw [linesOf?, read]
      · simp only [later, Option.map_map]
        rfl
      · exact filled

/-! ## Headers -/

theorem readParts_ne_nil {most : Nat} {s rest : List Char} {parts : List Part}
    (read : readParts most s = .ok (parts, rest)) : parts ≠ [] := by
  cases most with
  | zero =>
      rw [readParts] at read
      cases read
  | succ most =>
      rw [readParts] at read
      split at read
      · cases read
      · obtain ⟨⟨parts, after⟩, -, same⟩ := exists_of_map_eq_ok read
        cases same
        exact List.cons_ne_nil _ _
      · cases read
        exact List.cons_ne_nil _ _

def Line.IsHeader : Line → Prop
  | .node _ => False
  | .header _ _ key _ => key ≠ []

theorem isHeader_of_readHeader {indent s rest : List Char} {line : Line}
    (read : readHeader indent s = .ok (line, rest)) : line.IsHeader := by
  unfold readHeader at read
  split at read
  dsimp only at read
  split at read
  · cases read
  · rename_i key after named
    obtain ⟨⟨tail, after⟩, -, same⟩ := exists_of_map_eq_ok read
    cases same
    exact readParts_ne_nil named
  · cases read

theorem isHeader_of_readLine {fuel : Nat} {s inside rest : List Char} {line : Line}
    (opens : s.dropWhile Text.isGap = '[' :: inside) (read : readLine fuel s = .ok (line, rest)) :
    line.IsHeader := by
  unfold readLine at read
  rw [opens] at read
  exact isHeader_of_readHeader read

theorem exists_node_of_readEntry {fuel : Nat} {indent s rest : List Char} {line : Line}
    (read : readEntry fuel indent s = .ok (line, rest)) : ∃ node, line = .node node := by
  unfold readEntry at read
  split at read
  · cases read
  · split at read
    · cases read
    · split at read
      · cases read
      · obtain ⟨⟨tail, after⟩, -, same⟩ := exists_of_map_eq_ok read
        cases same
        exact ⟨_, rfl⟩

theorem node_or_isHeader {fuel : Nat} {s rest : List Char} {line : Line}
    (read : readLine fuel s = .ok (line, rest)) : (∃ node, line = .node node) ∨ line.IsHeader := by
  unfold readLine at read
  dsimp only at read
  split at read
  · cases read
    exact .inl ⟨_, rfl⟩
  · cases read
    exact .inl ⟨_, rfl⟩
  · obtain ⟨⟨tail, after⟩, -, same⟩ := exists_of_map_eq_ok read
    cases same
    exact .inl ⟨_, rfl⟩
  · exact .inr (isHeader_of_readHeader read)
  · exact .inl (exists_node_of_readEntry read)

theorem keyed_of_blocksOf {lines : List Line}
    (each : ∀ line ∈ lines, (∃ node, line = .node node) ∨ line.IsHeader) :
    ∀ b ∈ (blocksOf lines).2, b.key ≠ [] := by
  induction lines with
  | nil => simp [blocksOf]
  | cons line lines ih =>
      obtain ⟨own, others⟩ := List.forall_mem_cons.mp each
      cases line with
      | node node => exact ih others
      | header indent array key tail =>
          obtain ⟨node, impossible⟩ | keyed := own
          · cases impossible
          · exact List.forall_mem_cons.mpr ⟨keyed, ih others⟩

theorem each_of_linesOf? {fuel : Nat} {s : List Char} {lines : List Line}
    (read : linesOf? fuel s = some lines) :
    ∀ line ∈ lines, (∃ node, line = .node node) ∨ line.IsHeader := by
  induction fuel generalizing s lines with
  | zero =>
      cases s with
      | nil =>
          cases read
          simp
      | cons c s => cases read
  | succ fuel ih =>
      cases s with
      | nil =>
          cases read
          simp
      | cons c s =>
          rw [linesOf?] at read
          · split at read
            · cases read
            · rename_i line rest own
              obtain ⟨others, later, rfl⟩ := Option.map_eq_some_iff.mp read
              exact List.forall_mem_cons.mpr ⟨node_or_isHeader own, ih later⟩
          · simp

/-- Nodes before the first header are those before the blocks. -/
theorem blocksOf_append (nodes : List Node) (lines : List Line) :
    blocksOf (nodes.map .node ++ lines) =
      (nodes ++ (blocksOf lines).1, (blocksOf lines).2) := by
  induction nodes with
  | nil => rfl
  | cons node nodes ih => simp [blocksOf, ih]

/-- A text that is empty or opens with a header has no nodes before its first header. -/
theorem blocksOf_of_opens {fuel : Nat} {body : List Char} {lines : List Line}
    (opens : body = [] ∨ ∃ inside, body.dropWhile Text.isGap = '[' :: inside)
    (read : linesOf? fuel body = some lines) : (blocksOf lines).1 = [] := by
  cases body with
  | nil =>
      cases fuel <;>
      · cases read
        rfl
  | cons c body =>
      cases fuel with
      | zero => cases read
      | succ fuel =>
          rw [linesOf?] at read
          · split at read
            · cases read
            · rename_i line rest own
              obtain ⟨others, -, rfl⟩ := Option.map_eq_some_iff.mp read
              obtain impossible | ⟨inside, bracket⟩ := opens
              · cases impossible
              · have header := isHeader_of_readLine bracket own
                cases line with
                | node node => exact header.elim
                | header indent array key tail => rfl
          · simp

/-! ## Joining entries -/

theorem joinOne?_eq_some {nodes grown : List Node} {node : Node}
    (joined : joinOne? nodes node = some grown) : grown = nodes ++ [node] := by
  unfold joinOne? at joined
  split at joined
  · exact (Option.some.inj joined).symm
  · split at joined
    · exact (Option.some.inj joined).symm
    · split at joined
      · exact (Option.some.inj joined).symm
      · cases joined

theorem agreeing?_eq_some {fuel : Nat} {name : List Nat} {nodes seen : List Node}
    (agreed : agreeing? fuel name nodes = some seen) : seen = nodes := by
  cases fuel with
  | zero =>
      rw [agreeing?] at agreed
      cases agreed
  | succ fuel =>
      rw [agreeing?] at agreed
      split at agreed
      · split at agreed
        · exact (Option.some.inj agreed).symm
        · cases agreed
      · exact (Option.some.inj agreed).symm

theorem foldlM_agreeing?_eq_some {fuel : Nat} {names : List (List Nat)} {nodes seen : List Node}
    (agreed : names.foldlM (fun checked name => agreeing? fuel name checked) nodes = some seen) :
    seen = nodes := by
  induction names generalizing nodes with
  | nil => exact (Option.some.inj agreed).symm
  | cons name names ih =>
      rw [List.foldlM_cons, Option.bind_eq_bind, Option.bind_eq_some_iff] at agreed
      obtain ⟨next, own, later⟩ := agreed
      rw [ih later, agreeing?_eq_some own]

/-- Entries that can be joined stand one after the other. -/
theorem joinEntries?_eq_some {done nodes grown : List Node}
    (joined : joinEntries? done nodes = some grown) : grown = done ++ nodes := by
  induction nodes generalizing done with
  | nil =>
      rw [joinEntries?] at joined
      rw [foldlM_agreeing?_eq_some joined, List.append_nil]
  | cons node nodes ih =>
      rw [joinEntries?, Option.bind_eq_some_iff] at joined
      obtain ⟨next, own, later⟩ := joined
      rw [ih later, joinOne?_eq_some own, List.append_assoc, List.singleton_append]

/-! ## Joining tables -/

theorem eq_append_of_lastNamed? {name : List Nat} {nodes before after : List Node} {found : Node}
    (last : lastNamed? name nodes = some (before, found, after)) :
    nodes = before ++ found :: after := by
  induction nodes generalizing before with
  | nil => cases last
  | cons node rest ih =>
      rw [lastNamed?] at last
      split at last
      · rename_i before found after inner
        cases last
        rw [ih inner, List.cons_append]
      · split at last
        · cases last
          rfl
        · cases last

/-- Nodes that open no line, followed by nodes that do. -/
structure Stands (top others : List Node) : Prop where
  plain : ∀ node ∈ top, node.opensLine = false
  headed : ∀ node ∈ others, node.opensLine = true

theorem Stands.append {top others : List Node} (stands : Stands top others) {node : Node}
    (opens : node.opensLine = true) : Stands top (others ++ [node]) where
  plain := stands.plain
  headed := by
    rw [List.forall_mem_append]
    exact ⟨stands.headed, by simpa using opens⟩

/-- A node that opens a line can be exchanged. -/
theorem Stands.exchange {top others before after : List Node} {found node : Node}
    (stands : Stands top others) (whole : top ++ others = before ++ found :: after)
    (old : found.opensLine = true) (opens : node.opensLine = true) :
    ∃ next, before ++ node :: after = top ++ next ∧ Stands top next := by
  obtain ⟨middle, rfl, rest⟩ | ⟨middle, rfl, rest⟩ := List.append_eq_append_iff.mp whole
  · refine ⟨middle ++ node :: after, by simp, stands.plain, ?_⟩
    have headed := stands.headed
    rw [rest] at headed
    intro other member
    rcases List.mem_append.mp member with inside | behind
    · exact headed other (List.mem_append_left _ inside)
    · rcases List.mem_cons.mp behind with rfl | later
      · exact opens
      · exact headed other (List.mem_append_right _ (List.mem_cons_of_mem _ later))
  · cases middle with
    | nil =>
        refine ⟨node :: after, by simp, by simpa using stands.plain, ?_⟩
        rw [List.nil_append] at rest
        have headed := stands.headed
        rw [← rest] at headed
        exact List.forall_mem_cons.mpr ⟨opens, (List.forall_mem_cons.mp headed).2⟩
    | cons first middle =>
        cases rest
        have plain := stands.plain found (by simp)
        rw [old] at plain
        cases plain

/-- A node that opens a line joins nodes that do, and leaves the others as they are. -/
theorem Stands.joinWith? {fuel : Nat} {top others grown : List Node} {node : Node}
    (stands : Stands top others) (opens : node.opensLine = true)
    (joined : joinWith? fuel .top (top ++ others) node = some grown) :
    ∃ next, grown = top ++ next ∧ Stands top next := by
  have apart : ∃ next, top ++ others ++ [node] = top ++ next ∧ Stands top next :=
    ⟨others ++ [node], List.append_assoc top others [node], stands.append opens⟩
  cases fuel with
  | zero =>
      rw [Layout.joinWith?] at joined
      cases joined
  | succ fuel =>
      cases node with
      | space text => cases opens
      | remark text => cases opens
      | entry part lead value tail => cases opens
      | tables part items =>
          rw [joinWith?.eq_def] at joined
          dsimp only at joined
          split at joined
          · cases joined
            exact apart
          · rename_i before first inner after last
            cases joined
            exact stands.exchange (eq_append_of_lastNamed? last) rfl rfl
          · cases joined
      | table part indent origin body =>
          rw [joinWith?.eq_def] at joined
          dsimp only at joined
          split at joined
          · cases joined
            exact apart
          · rename_i before first margin old within after last
            have whole := eq_append_of_lastNamed? last
            have new : (origin == .dotted) = false := by simpa [Node.opensLine] using opens
            split at joined
            · split at joined
              · cases joined
              · rename_i kept
                cases joined
                exact stands.exchange whole (by simpa [Node.opensLine] using kept) rfl
            · split at joined
              · cases joined
              · split at joined
                · cases joined
                  exact apart
                · split at joined
                  · cases agreeing?_eq_some joined
                    exact apart
                  · rename_i met
                    obtain ⟨merged, -, same⟩ := Option.bind_eq_some_iff.mp joined
                    cases same
                    simp only [new, Bool.false_or, Bool.or_eq_true, not_or, beq_iff_eq] at met
                    exact stands.exchange whole (by simpa [Node.opensLine] using met.1)
                      (by simpa [Node.opensLine] using met.1)
          · rename_i before first items after last
            have whole := eq_append_of_lastNamed? last
            split at joined
            · cases joined
              exact stands.exchange whole rfl rfl
            · split at joined
              · cases joined
              · split at joined
                · obtain ⟨grown, -, rfl⟩ := Option.map_eq_some_iff.mp joined
                  exact stands.exchange whole rfl rfl
                · cases joined
          · cases joined

/-! ## Documents -/

theorem opensLine_headedNode (b : Block) (body : List Node) (indent : List Char)
    {parts : List Part} (shown : parts ≠ []) :
    (headedNode b body indent parts).opensLine = true := by
  rcases parts with _ | ⟨part, _ | ⟨next, rest⟩⟩
  · exact absurd rfl shown
  · simp only [headedNode]
    split <;> rfl
  · rfl

theorem opensLine_blockNode (b : Block) (array : List (List Nat)) (body : List Node)
    {parts : List Part} (shown : parts ≠ []) : (blockNode b array body parts).opensLine = true := by
  have opens := opensLine_headedNode b body [] shown
  unfold blockNode
  split
  · split <;> rfl
  · exact opens

/-- Tables are added after what stands before the first header. -/
theorem Stands.addBlocks? {array : List (List Nat)} {top others grown : List Node}
    {blocks : List Block} (stands : Stands top others) (keyed : ∀ b ∈ blocks, b.key ≠ [])
    (added : addBlocks? 0 array (top ++ others) blocks = some grown) :
    ∃ next, grown = top ++ next ∧ Stands top next := by
  induction size : blocks.length using Nat.strong_induction_on generalizing array others blocks with
  | h count ih =>
      cases blocks with
      | nil =>
          rw [Layout.addBlocks?] at added
          cases added
          exact ⟨others, rfl, stands⟩
      | cons b rest =>
          obtain ⟨own, later⟩ := List.forall_mem_cons.mp keyed
          rw [Layout.addBlocks?] at added
          dsimp only at added
          split at added
          · cases added
          · split at added
            · cases added
            · split at added
              · cases added
              · rename_i joined
                obtain ⟨next, rfl, still⟩ :=
                  stands.joinWith? (opensLine_blockNode b _ _ (by simpa using own)) joined
                have less : (rest.dropWhile (·.isBelow b)).length < count := by
                  have short := length_dropWhile_le (·.isBelow b) rest
                  rw [← size, List.length_cons]
                  omega
                refine ih _ less still (fun other member => ?_) added rfl
                exact later other ((List.dropWhile_suffix _).mem member)

/-- A document is kept as the nodes of its lines before the first header, and nodes that open a
line. -/
theorem stands_of_readNodes? {ends : Prop} {strips : List Strip} {body : List Char}
    {nodes : List Node} (kept : ∀ f ∈ fieldsOn strips, Keeps f) (ordered : Ordered ends strips)
    (empty : ends → body = [])
    (opens : body = [] ∨ ∃ inside, body.dropWhile Text.isGap = '[' :: inside)
    (read : readNodes? (stripsText strips ++ body) = some nodes) :
    ∃ others, nodes = nodesOf strips ++ others ∧ Stands (nodesOf strips) others ∧
      (body = [] → others = []) := by
  unfold readNodes? at read
  simp only [Option.bind_eq_bind, Option.bind_eq_some_iff] at read
  obtain ⟨lines, lined, entries, joined, added⟩ := read
  have enough : 3 * (stripsText strips ++ body).length + 1 ≤
      readFuel (stripsText strips ++ body) := by
    rw [readFuel]
    omega
  obtain ⟨more, -, cut⟩ := linesOf?_stripsText kept ordered empty enough
  rw [cut, Option.map_eq_some_iff] at lined
  obtain ⟨behind, following, rfl⟩ := lined
  have keyed := keyed_of_blocksOf (each_of_linesOf? following)
  simp only [blocksOf_append, blocksOf_of_opens opens following, List.append_nil] at joined added
  cases joinEntries?_eq_some joined
  have stands : Stands (nodesOf strips) [] := ⟨not_opensLine_of_mem_nodesOf, by simp⟩
  rw [List.nil_append, ← List.append_nil (nodesOf strips)] at added
  obtain ⟨others, rfl, still⟩ := stands.addBlocks? keyed added
  refine ⟨others, rfl, still, ?_⟩
  rintro rfl
  have nothing : behind = [] := by
    cases more <;>
    · cases following
      rfl
  rw [nothing, blocksOf, addBlocks?] at added
  exact List.append_cancel_left (Option.some.inj added).symm

end CommandDocs.Toml.Layout

import CommandDocs.Proofs.Toml.Flat.Edit
import CommandDocs.Proofs.Toml.Merge.Joining

/-!
# Editing documents with tables

Setting a key at the top changes the lines before the first header alone.  An entry that is there
gets another value; a new one comes after the last line that says something.  Whatever follows is
at most set off by a line feed.
-/

namespace CommandDocs.Toml

/-! ## Entries -/

theorem Entry.readsAs (e : Entry) : ReadsAs e.lead e.value e.tail [e.name] e.content := by
  intro after rest follows
  refine ⟨readItem_line (.entry e) follows, ?_⟩
  have cut := Entry.text_append e after
  have start := dropWhile_space e.spaced (e.literal.not_gap (e.tail ++ after))
  have read := e.literal.read (2 * (e.value ++ (e.tail ++ after)).length + 2) (e.tail ++ after)
    (by rw [List.length_append]; omega) (ends_tail e.ended follows)
  rw [Line.text] at cut
  rw [cut, dropWhile_space e.indented (e.key.not_gap _), cutEntry, e.key.read]
  simp only [start, read, taken_append]

/-- An entry with one key, given the part of its key. -/
def Entry.field (e : Entry) (part : Layout.Part) (named : part.name = pointsOf e.name) : Field where
  key := [e.name]
  parts := [part]
  lead := e.lead
  value := e.value
  tail := e.tail
  content := e.content
  shown := List.cons_ne_nil e.name []
  named := by simp [named]
  ended := e.ended
  own := e.readsAs
  other literal := Entry.readsAs { e with value := _, content := _, literal }

def Entry.kept (e : Entry) : Field :=
  e.field ⟨pointsOf e.name, e.spelling⟩ rfl

theorem Layout.keeps_entry (e : Entry) : Keeps e.kept := by
  intro fuel after rest enough follows
  have short : 2 * e.value.length < fuel := by
    simp only [Entry.kept, Entry.field, List.length_append] at enough
    omega
  cases follows with
  | feed rest =>
      have fed : Follows (Row.feed ⟨.entry e, true⟩ ++ rest) rest := .feed rest
      have read := readLine_entry e fed short
      rw [show taken ('\n' :: rest) rest = ['\n'] from taken_append ['\n'] rest]
      exact read
  | nothing =>
      have bare : Follows (Row.feed ⟨.entry e, false⟩ ++ []) [] := .nothing
      exact readLine_entry e bare short

/-- An entry with another value. -/
def Field.put (f : Field) {value : List Char} {content : Value}
    (literal : IsLiteral value content) : Field :=
  { f with value, content, own := f.other literal }

def newField {name : String} {value : List Char} {content : Value}
    (key : IsKey (name.toList ++ [' ']) name) (literal : IsLiteral value content) : Field :=
  (Layout.newEntryOf key literal).field ⟨pointsOf name, name.toList⟩ rfl

/-- Whether the key of an entry opens with a name. -/
def Strip.Opens (name : String) (strip : Strip) : Prop :=
  ∃ f ∈ strip.piece.field?, f.key.head? = some name

/-- A line with its line feed. -/
def Strip.shut (strip : Strip) : Strip :=
  { strip with closed := true }

/-- What setting a key makes of the lines before the first header. -/
inductive SetIn {name : String} {value : List Char} {content : Value}
    (key : IsKey (name.toList ++ [' ']) name) (literal : IsLiteral value content) :
    List Strip → List Strip → Prop where
  | replaced {front back : List Strip} {f : Field} {closed : Bool} (whole : f.key = [name])
      (apart : ∀ strip ∈ front ++ back, ¬strip.Opens name) :
      SetIn key literal (front ++ ⟨.field f, closed⟩ :: back)
        (front ++ ⟨.field (f.put literal), closed⟩ :: back)
  | added {front back : List Strip} (apart : ∀ strip ∈ front ++ back, ¬strip.Opens name) :
      SetIn key literal (front ++ back)
        (front.map Strip.shut ++ ⟨.field (newField key literal), true⟩ :: back)

def openings (name : String) (strips : List Strip) : List (List String) :=
  ((Layout.fieldsOn strips).map Field.key).filter fun key => key.head? == some name

/-- Whether nothing, or one entry with no other part in its key, opens with a name. -/
def PlainAt (name : String) (strips : List Strip) : Prop :=
  openings name strips = [] ∨ openings name strips = [[name]]

section Openings

variable {name : String} {strip : Strip} {strips : List Strip}

theorem openings_cons_of_not (apart : ¬strip.Opens name) (rest : List Strip) :
    openings name (strip :: rest) = openings name rest := by
  unfold openings Layout.fieldsOn
  cases held : strip.piece.field? with
  | none => simp only [List.filterMap_cons, held]
  | some f =>
      have other : f.key.head? ≠ some name := fun same => apart ⟨f, held, same⟩
      simp [held, other]

theorem openings_cons_of_opens {f : Field} (held : strip.piece.field? = some f)
    (opens : f.key.head? = some name) (rest : List Strip) :
    openings name (strip :: rest) = f.key :: openings name rest := by
  unfold openings Layout.fieldsOn
  simp [held, opens]

theorem openings_append (front back : List Strip) :
    openings name (front ++ back) = openings name front ++ openings name back := by
  simp [openings, Layout.fieldsOn]

theorem openings_eq_nil_iff : openings name strips = [] ↔ ∀ strip ∈ strips, ¬strip.Opens name := by
  induction strips with
  | nil => simp [openings, Layout.fieldsOn]
  | cons strip rest ih =>
      rw [List.forall_mem_cons]
      by_cases opens : strip.Opens name
      · obtain ⟨f, held, same⟩ := opens
        rw [openings_cons_of_opens held same]
        exact iff_of_false (List.cons_ne_nil _ _) fun both => both.1 ⟨f, held, same⟩
      · rw [openings_cons_of_not opens, ih]
        exact (and_iff_right opens).symm

/-- A key that opens one line alone is found there. -/
theorem exists_of_openings_eq_singleton (single : openings name strips = [[name]]) :
    ∃ front f closed back, strips = front ++ ⟨.field f, closed⟩ :: back ∧ f.key = [name] ∧
      ∀ strip ∈ front ++ back, ¬strip.Opens name := by
  induction strips with
  | nil => cases single
  | cons strip rest ih =>
      by_cases opens : strip.Opens name
      · obtain ⟨f, held, same⟩ := opens
        rw [openings_cons_of_opens held same] at single
        obtain ⟨whole, none⟩ := List.cons.inj single
        obtain ⟨piece, closed⟩ := strip
        cases piece with
        | field own =>
            cases held
            exact ⟨[], f, closed, rest, rfl, whole, openings_eq_nil_iff.mp none⟩
        | _ => cases held
      · rw [openings_cons_of_not opens] at single
        obtain ⟨front, f, closed, back, rfl, whole, apart⟩ := ih single
        exact ⟨strip :: front, f, closed, back, rfl, whole, List.forall_mem_cons.mpr ⟨opens, apart⟩⟩

end Openings

section Order

variable {ends : Prop} {front back : List Strip}

theorem Ordered.of_append_left (ordered : Ordered ends (front ++ back)) :
    Ordered (ends ∧ back = []) front := by
  induction front with
  | nil => trivial
  | cons strip front ih =>
      refine ⟨?_, ih ordered.2⟩
      rcases ordered.1 with closed | ⟨shown, last, ended⟩
      · exact .inl closed
      · obtain ⟨rfl, rfl⟩ := List.append_eq_nil_iff.mp last
        exact .inr ⟨shown, rfl, ended, rfl⟩

theorem Ordered.of_append_right (ordered : Ordered ends (front ++ back)) : Ordered ends back := by
  induction front with
  | nil => exact ordered
  | cons strip front ih => exact ih ordered.2

theorem Ordered.append (closed : ∀ strip ∈ front, strip.closed = true)
    (ordered : Ordered ends back) : Ordered ends (front ++ back) := by
  induction front with
  | nil => exact ordered
  | cons strip front ih =>
      obtain ⟨own, others⟩ := List.forall_mem_cons.mp closed
      exact ⟨.inl own, ih others⟩

end Order

namespace Layout

/-- What setting a key makes of the nodes that open a line. -/
inductive SetOff : List Node → List Node → Prop where
  | same (nodes : List Node) : SetOff nodes nodes
  | first (node : Node) (rest : List Node) : SetOff (node :: rest) (node.setOff :: rest)

/-! ## Replacing a value -/

section Replace

variable {name : String}

theorem head?_parts (f : Field) : f.parts.head?.map Part.name = f.key.head?.map pointsOf := by
  rw [← List.head?_map, f.named, List.head?_map]

theorem replace_nodeOf {strip : Strip} (apart : ¬strip.Opens name) (value feed : List Char) :
    (nodeOf feed strip.piece).replace (pointsOf name) value = nodeOf feed strip.piece := by
  obtain ⟨piece, closed⟩ := strip
  cases piece with
  | blank gap white => rfl
  | remark gap words white legal => rfl
  | field f =>
      have heads := head?_parts f
      have other : f.key.head? ≠ some name := fun same => apart ⟨f, rfl, same⟩
      rw [nodeOf]
      rcases shape : f.parts with _ | ⟨part, _ | ⟨next, rest⟩⟩
      · rfl
      · have away : part.name ≠ pointsOf name := by
          intro same
          rw [shape, List.head?_cons, Option.map_some, same, eq_comm,
            Option.map_eq_some_iff] at heads
          obtain ⟨first, opens, points⟩ := heads
          rw [pointsOf_injective points] at opens
          exact other opens
        simp [entryNode, Node.replace, away]
      · rfl

theorem exists_part {f : Field} (whole : f.key = [name]) :
    ∃ part, f.parts = [part] ∧ part.name = pointsOf name := by
  have named := f.named
  rw [whole, List.map_singleton, List.map_eq_singleton_iff] at named
  exact named

theorem replace_nodeOf_field {f : Field} (whole : f.key = [name]) {value : List Char}
    {content : Value} (literal : IsLiteral value content) (feed : List Char) :
    (nodeOf feed (.field f)).replace (pointsOf name) value =
      nodeOf feed (.field (f.put literal)) := by
  obtain ⟨part, shape, same⟩ := exists_part whole
  simp [nodeOf, Field.put, shape, entryNode, Node.replace, same]

theorem replace_of_opensLine {node : Node} (opens : node.opensLine = true) (points : List Nat)
    (value : List Char) : node.replace points value = node := by
  cases node with
  | entry => cases opens
  | _ => rfl

end Replace

/-! ## Closing a line -/

theorem close_entryNode (lead value tail : List Char) (parts : List Part) :
    (entryNode lead value tail parts).close = entryNode lead value (endLine tail) parts := by
  induction parts with
  | nil => rfl
  | cons part rest ih =>
      cases rest with
      | nil => rfl
      | cons next rest => rw [entryNode_cons, entryNode_cons, Node.close, closeLast, ih]

theorem close_nodeOf {strip : Strip} (content : (nodeOf strip.feed strip.piece).isContent = true) :
    (nodeOf strip.feed strip.piece).close = nodeOf ['\n'] strip.piece := by
  obtain ⟨piece, closed⟩ := strip
  cases piece with
  | blank gap white => cases content
  | remark gap words white legal =>
      have single : '\n' ∉ gap ++ '#' :: words := by
        simp [not_feed_of_isSpace white, not_feed_of_isWords legal]
      exact congrArg Node.remark (endLine_feed single closed)
  | field f =>
      rw [nodeOf, close_entryNode]
      exact congrArg (entryNode f.lead f.value · f.parts)
        (endLine_feed (not_feed_of_isTail f.ended) closed)

theorem closeLast_nodesOf {ends : Prop} {strips : List Strip} (ordered : Ordered ends strips)
    (content : ∀ node ∈ (nodesOf strips).getLast?, node.isContent = true) :
    closeLast (nodesOf strips) = nodesOf (strips.map Strip.shut) := by
  induction strips with
  | nil => rfl
  | cons strip rest ih =>
      cases rest with
      | nil => exact congrArg (· :: []) (close_nodeOf (content _ rfl))
      | cons next rest =>
          have closed : strip.closed = true := by
            rcases ordered.1 with closed | ⟨-, impossible, -⟩
            · exact closed
            · cases impossible
          have shut : strip.shut = strip := by
            rw [Strip.shut, ← closed]
          have later := ih ordered.2 fun node last => content node (by
            simpa [nodesOf, List.getLast?_cons_cons] using last)
          rw [List.map_cons, shut]
          exact congrArg (nodeOf strip.feed strip.piece :: ·) later

/-! ## Adding an entry -/

/-- Whether a line says something, or remarks on something. -/
def isShown (strip : Strip) : Bool :=
  (nodeOf strip.feed strip.piece).isContent

theorem setOff_of_not_isShown {strip : Strip} (blank : isShown strip = false) :
    (nodeOf strip.feed strip.piece).setOff = nodeOf strip.feed strip.piece := by
  obtain ⟨piece, closed⟩ := strip
  cases piece with
  | blank gap white => rfl
  | remark gap words white legal => cases blank
  | field f =>
      rcases shape : f.parts with _ | ⟨part, _ | ⟨next, rest⟩⟩
      · exact absurd shape (Field.parts_ne_nil f)
      · simp [isShown, nodeOf, shape, entryNode, Node.isContent] at blank
      · simp [isShown, nodeOf, shape, entryNode, Node.isContent] at blank

theorem nodesOf_append (front back : List Strip) :
    nodesOf (front ++ back) = nodesOf front ++ nodesOf back :=
  List.map_append

theorem nodesOf_cons (strip : Strip) (rest : List Strip) :
    nodesOf (strip :: rest) = nodeOf strip.feed strip.piece :: nodesOf rest :=
  rfl

theorem takeWhile_nodesOf {strips : List Strip} {others : List Node}
    (stands : Stands (nodesOf strips) others) :
    (nodesOf strips ++ others).takeWhile (fun node => !node.opensLine) = nodesOf strips := by
  rw [List.takeWhile_append_of_pos fun node member => by simp [stands.plain node member]]
  cases others with
  | nil => simp
  | cons first rest => simp [stands.headed first List.mem_cons_self]

theorem rdropWhile_nodesOf (strips : List Strip) :
    (nodesOf strips).rdropWhile (fun node => !node.isContent) =
      nodesOf (strips.rdropWhile fun strip => !isShown strip) := by
  unfold List.rdropWhile nodesOf
  rw [← List.map_reverse, List.dropWhile_map, ← List.map_reverse]
  rfl

/-- Adding an entry cuts the lines after the last one that is shown. -/
theorem append_nodesOf {name : String} {value : List Char} {content : Value}
    (key : IsKey (name.toList ++ [' ']) name) (literal : IsLiteral value content)
    {ends : Prop} {strips : List Strip} {others : List Node} (ordered : Ordered ends strips)
    (stands : Stands (nodesOf strips) others) :
    ∃ front back next, strips = front ++ back ∧ SetOff others next ∧
      append name value (nodesOf strips ++ others) = nodesOf (front.map Strip.shut ++
        ⟨.field (newField key literal), true⟩ :: back) ++ next := by
  obtain ⟨front, back, rfl, cut, shown, blank⟩ : ∃ front back, strips = front ++ back ∧
      (nodesOf strips).rdropWhile (fun node => !node.isContent) = nodesOf front ∧
      (∀ strip ∈ front.getLast?, isShown strip = true) ∧
      ∀ strip ∈ back, isShown strip = false := by
    refine ⟨_, _, List.rdropWhile_append_rtakeWhile.symm, rdropWhile_nodesOf strips, ?_, ?_⟩
    · intro strip ends
      obtain ⟨nonempty, rfl⟩ := List.mem_getLast?_eq_getLast ends
      simpa using List.rdropWhile_last_not (fun strip => !isShown strip) strips nonempty
    · intro strip member
      simpa using List.mem_rtakeWhile_imp member
  have shut : closeLast (nodesOf front) = nodesOf (front.map Strip.shut) := by
    refine closeLast_nodesOf ordered.of_append_left fun node last => ?_
    rw [nodesOf, List.getLast?_map] at last
    obtain ⟨strip, ends, rfl⟩ := Option.map_eq_some_iff.mp last
    exact shown strip ends
  have drop : (nodesOf (front ++ back) ++ others).drop (nodesOf front).length =
      nodesOf back ++ others := by
    rw [nodesOf_append, List.append_assoc]
    exact List.drop_left
  unfold append
  simp only [takeWhile_nodesOf stands]
  rw [← List.rdropWhile, cut, drop, shut]
  have new : newEntry name value = nodeOf ['\n'] (.field (newField key literal)) := by
    simp [newEntry, newField, Entry.field, newEntryOf, Entry.lead, nodeOf, entryNode, pointsOf]
  have whole (later : List Strip) : nodesOf (front.map Strip.shut ++
      ⟨.field (newField key literal), true⟩ :: later) =
        nodesOf (front.map Strip.shut) ++ newEntry name value :: nodesOf later := by
    rw [nodesOf_append, nodesOf_cons, new]
    rfl
  cases back with
  | nil =>
      cases others with
      | nil => exact ⟨front, [], [], rfl, .same [], by rw [whole]; simp [nodesOf]⟩
      | cons first rest =>
          refine ⟨front, [], first.setOff :: rest, rfl, .first first rest, ?_⟩
          rw [whole, List.append_assoc]
          rfl
  | cons strip back =>
      refine ⟨front, strip :: back, others, rfl, .same others, ?_⟩
      have still := setOff_of_not_isShown (blank strip List.mem_cons_self)
      rw [whole, nodesOf_cons, List.append_assoc]
      simp only [List.cons_append, still]

/-! ## Setting a key -/

section Set

variable {name : String} {value : List Char} {content : Value}
  (key : IsKey (name.toList ++ [' ']) name) (literal : IsLiteral value content)

theorem name?_nodeOf {strip : Strip} (apart : ¬strip.Opens name) (feed : List Char) :
    (nodeOf feed strip.piece).name? ≠ some (pointsOf name) := by
  obtain ⟨piece, closed⟩ := strip
  cases piece with
  | blank gap white => exact fun impossible => by cases impossible
  | remark gap words white legal => exact fun impossible => by cases impossible
  | field f =>
      intro same
      rw [nodeOf, name?_entryNode, head?_parts f, Option.map_eq_some_iff] at same
      obtain ⟨first, opens, points⟩ := same
      rw [pointsOf_injective points] at opens
      exact apart ⟨f, rfl, opens⟩

theorem name?_of_isEntryOf {node : Node} {points : List Nat}
    (entry : node.isEntryOf points = true) : node.name? = some points := by
  cases node with
  | entry part lead value tail => exact congrArg some (by simpa [Node.isEntryOf] using entry)
  | _ => cases entry

section Apart

variable {strips : List Strip} (apart : ∀ strip ∈ strips, ¬strip.Opens name)
include apart

theorem name?_of_mem_nodesOf :
    ∀ node ∈ nodesOf strips, node.name? ≠ some (pointsOf name) := by
  intro node member
  obtain ⟨strip, among, rfl⟩ := List.mem_map.mp member
  exact name?_nodeOf (apart strip among) _

theorem map_replace_nodesOf (value : List Char) :
    (nodesOf strips).map (Node.replace (pointsOf name) value) = nodesOf strips := by
  refine (List.map_congr_left fun node member => ?_).trans (List.map_id _)
  obtain ⟨strip, among, rfl⟩ := List.mem_map.mp member
  exact replace_nodeOf (apart strip among) value _

end Apart

theorem map_vacate_eq {points : List Nat} {nodes : List Node}
    (apart : ∀ node ∈ nodes, node.name? ≠ some points) :
    nodes.map (Node.vacate points) = nodes := by
  refine (List.map_congr_left fun node member => ?_).trans (List.map_id _)
  simp [Node.vacate, apart node member]

theorem not_any_isEntryOf {points : List Nat} {nodes : List Node}
    (apart : ∀ node ∈ nodes, node.name? ≠ some points) :
    ¬nodes.any (Node.isEntryOf points) = true := by
  intro found
  obtain ⟨node, member, entry⟩ := List.any_eq_true.mp found
  exact apart node member (name?_of_isEntryOf entry)

/-- Setting a key changes the lines before the first header alone. -/
theorem exists_set_eq {ends : Prop} {strips : List Strip} {others : List Node}
    (plain : PlainAt name strips) (ordered : Ordered ends strips)
    (stands : Stands (nodesOf strips) others)
    (apart : ∀ node ∈ others, node.name? ≠ some (pointsOf name)) :
    ∃ lines next, set name value (nodesOf strips ++ others) = nodesOf lines ++ next ∧
      SetIn key literal strips lines ∧ SetOff others next := by
  unfold set
  rw [← pointsOf]
  rcases plain with none | single
  · have free := openings_eq_nil_iff.mp none
    have away : ∀ node ∈ nodesOf strips ++ others, node.name? ≠ some (pointsOf name) :=
      List.forall_mem_append.mpr ⟨name?_of_mem_nodesOf free, apart⟩
    rw [if_neg (not_any_isEntryOf away), map_vacate_eq away]
    obtain ⟨front, back, next, rfl, off, made⟩ := append_nodesOf key literal ordered stands
    exact ⟨_, next, made, .added free, off⟩
  · obtain ⟨front, f, closed, back, rfl, whole, away⟩ := exists_of_openings_eq_singleton single
    obtain ⟨before, behind⟩ := List.forall_mem_append.mp away
    have there : (nodesOf (front ++ ⟨.field f, closed⟩ :: back) ++ others).any
        (Node.isEntryOf (pointsOf name)) = true := by
      obtain ⟨part, shape, same⟩ := exists_part whole
      simp [nodesOf, nodeOf, shape, entryNode, Node.isEntryOf, same]
    have kept : others.map (Node.replace (pointsOf name) value) = others := by
      refine (List.map_congr_left fun node member => ?_).trans (List.map_id _)
      exact replace_of_opensLine (stands.headed node member) _ _
    refine ⟨_, others, ?_, .replaced whole away, .same others⟩
    rw [if_pos there, List.map_append, kept, nodesOf_append, nodesOf_cons, List.map_append,
      List.map_cons, map_replace_nodesOf before, map_replace_nodesOf behind,
      replace_nodeOf_field whole literal, nodesOf_append, nodesOf_cons]
    rfl

end Set

end Layout

end CommandDocs.Toml

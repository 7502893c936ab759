import CommandDocs.Proofs.Toml.Merge.Remarks
import CommandDocs.Proofs.Toml.Sections.Texts

/-!
# What setting a key does to a document

The key gets its value, and the document stays in order.  Every other key has what it had, in the
lines before the first header and after them.
-/

namespace CommandDocs.Toml

section SetIn

variable {name : String} {value : List Char} {content : Value}
  {key : IsKey (name.toList ++ [' ']) name} {literal : IsLiteral value content}
  {strips lines : List Strip}

/-! ## The lines -/

theorem SetIn.ordered (made : SetIn key literal strips lines) {ends : Prop}
    (ordered : Ordered ends strips) : Ordered ends lines := by
  cases made with
  | @replaced front back f closed whole apart =>
      clear apart
      induction front with
      | nil =>
          refine ⟨ordered.1.imp_right fun open_ => ⟨?_, open_.2⟩, ordered.2⟩
          obtain ⟨c, rest, same, -⟩ := literal.opens
          simp [Piece.text, Field.put, same]
      | cons strip front ih =>
          refine ⟨.inl ?_, ih ordered.2⟩
          rcases ordered.1 with closed | ⟨-, impossible, -⟩
          · exact closed
          · exact absurd impossible (by simp)
  | @added front back apart =>
      refine Ordered.append (fun strip member => ?_) ⟨.inl rfl, ordered.of_append_right⟩
      obtain ⟨old, -, rfl⟩ := List.mem_map.mp member
      rfl

theorem single_stripsText_iff :
    '\r' ∉ stripsText strips ↔ ∀ strip ∈ strips, '\r' ∉ strip.piece.text := by
  have own (strip : Strip) : '\r' ∈ strip.text ↔ '\r' ∈ strip.piece.text := by
    have fed : '\r' ∉ strip.feed := by
      unfold Strip.feed
      split <;> simp
    simp [Strip.text, fed]
  simp [stripsText, own]

/-- No carriage return is written. -/
theorem SetIn.single (made : SetIn key literal strips lines) (single : '\r' ∉ stripsText strips) :
    '\r' ∉ stripsText lines := by
  rw [single_stripsText_iff] at single ⊢
  cases made with
  | @replaced front back f closed whole apart =>
      obtain ⟨before, others⟩ := List.forall_mem_append.mp single
      obtain ⟨own, behind⟩ := List.forall_mem_cons.mp others
      refine List.forall_mem_append.mpr ⟨before, List.forall_mem_cons.mpr ⟨?_, behind⟩⟩
      simp only [Piece.text, Field.put, List.mem_append, not_or] at own ⊢
      exact ⟨⟨own.1.1, literal.single⟩, own.2⟩
  | @added front back apart =>
      obtain ⟨before, behind⟩ := List.forall_mem_append.mp single
      refine List.forall_mem_append.mpr ⟨?_, List.forall_mem_cons.mpr ⟨?_, behind⟩⟩
      · intro strip member
        obtain ⟨old, among, rfl⟩ := List.mem_map.mp member
        exact before old among
      · have named := key.single
        simp only [List.mem_append, not_or] at named
        simp [Piece.text, newField, Entry.field, Layout.newEntryOf, Entry.lead, named.1,
          literal.single]

theorem fieldsOn_append (front back : List Strip) :
    Layout.fieldsOn (front ++ back) = Layout.fieldsOn front ++ Layout.fieldsOn back :=
  List.filterMap_append

theorem fieldsOn_shut (strips : List Strip) :
    Layout.fieldsOn (strips.map Strip.shut) = Layout.fieldsOn strips := by
  rw [Layout.fieldsOn, List.filterMap_map]
  rfl

theorem fieldsOn_field (f : Field) (closed : Bool) (rest : List Strip) :
    Layout.fieldsOn (⟨.field f, closed⟩ :: rest) = f :: Layout.fieldsOn rest :=
  rfl

/-- The keys that open with another name stay as they are. -/
theorem SetIn.openings_eq (made : SetIn key literal strips lines) {other : String}
    (apart : other ≠ name) : openings other lines = openings other strips := by
  cases made with
  | @replaced front back f closed whole away =>
      simp only [openings, fieldsOn_append, fieldsOn_field, List.map_append, List.map_cons]
      rfl
  | @added front back away =>
      have new : ((newField key literal).key.head? == some other) = false := by
        simpa [newField, Entry.field, Layout.newEntryOf] using Ne.symm apart
      simp only [openings, fieldsOn_append, fieldsOn_field, fieldsOn_shut, List.map_append,
        List.map_cons, List.filter_append, List.filter_cons, new]
      rfl

/-- The value of a key at the top, as the lines before the first header have it. -/
def valueAt (name : String) (strips : List Strip) : Option Value :=
  ((Layout.fieldsOn strips).find? fun f => f.key == [name]).map Field.content

theorem key_ne_of_mem_fieldsOn {name : String} {strips : List Strip}
    (apart : ∀ strip ∈ strips, ¬strip.Opens name) :
    ∀ f ∈ Layout.fieldsOn strips, (f.key == [name]) = false := by
  intro f member
  obtain ⟨strip, among, held⟩ := List.mem_filterMap.mp member
  refine Bool.eq_false_iff.mpr fun same => apart strip among ⟨f, held, ?_⟩
  rw [beq_iff_eq.mp same]
  rfl

theorem valueAt_of_not_opens {name : String} {strips : List Strip}
    (apart : ∀ strip ∈ strips, ¬strip.Opens name) : valueAt name strips = none := by
  rw [valueAt, Option.map_eq_none_iff, List.find?_eq_none]
  intro f member
  simp [key_ne_of_mem_fieldsOn apart f member]

theorem valueAt_field {name : String} {front back : List Strip} {f : Field} {closed : Bool}
    (whole : f.key = [name]) (apart : ∀ strip ∈ front, ¬strip.Opens name) :
    valueAt name (front ++ ⟨.field f, closed⟩ :: back) = some f.content := by
  have none : (Layout.fieldsOn front).find? (fun f => f.key == [name]) = none := by
    rw [List.find?_eq_none]
    intro f member
    simp [key_ne_of_mem_fieldsOn apart f member]
  simp [valueAt, fieldsOn_append, fieldsOn_field, none, whole]

/-- Other keys keep their values on the lines. -/
theorem SetIn.valueAt_eq (made : SetIn key literal strips lines) {other : String}
    (apart : other ≠ name) : valueAt other lines = valueAt other strips := by
  cases made with
  | @replaced front back f closed whole away =>
      have old : (f.key == [other]) = false := by simpa [whole] using Ne.symm apart
      have new : ((f.put literal).key == [other]) = false := old
      simp only [valueAt, fieldsOn_append, fieldsOn_field, List.find?_append, List.find?_cons, old,
        new]
  | @added front back away =>
      have new : ((newField key literal).key == [other]) = false := by
        simpa [newField, Entry.field, Layout.newEntryOf] using Ne.symm apart
      simp only [valueAt, fieldsOn_append, fieldsOn_field, fieldsOn_shut, List.find?_append,
        List.find?_cons, new]

/-! ## What the document yields -/

theorem itemsOn_append (front back : List Strip) :
    itemsOn (front ++ back) = itemsOn front ++ itemsOn back :=
  List.filterMap_append

theorem itemsOn_field (f : Field) (closed : Bool) (rest : List Strip) :
    itemsOn (⟨.field f, closed⟩ :: rest) = .entry f.key f.content :: itemsOn rest :=
  rfl

theorem itemsOn_shut (strips : List Strip) : itemsOn (strips.map Strip.shut) = itemsOn strips := by
  rw [itemsOn, List.filterMap_map]
  rfl

theorem exists_of_mem_itemsOn {item : Item} (member : item ∈ itemsOn strips) :
    ∃ f : Field, item = .entry f.key f.content := by
  obtain ⟨⟨piece, closed⟩, -, said⟩ := List.mem_filterMap.mp member
  cases piece with
  | field f => exact ⟨f, (Option.some.inj said).symm⟩
  | _ => cases said

theorem isEntry_of_mem_itemsOn : ∀ item ∈ itemsOn strips, item.isEntry = true := by
  intro item member
  obtain ⟨f, rfl⟩ := exists_of_mem_itemsOn member
  rfl

theorem key_ne_nil_of_mem_itemsOn : ∀ item ∈ itemsOn strips, item.key ≠ [] := by
  intro item member
  obtain ⟨f, rfl⟩ := exists_of_mem_itemsOn member
  exact f.shown

theorem named_of_append {front back : List Strip} {items : List Item}
    (named : ∀ item ∈ items, item.key ≠ []) :
    ∀ item ∈ itemsOn front ++ (itemsOn back ++ items), item.key ≠ [] :=
  List.forall_mem_append.mpr ⟨key_ne_nil_of_mem_itemsOn,
    List.forall_mem_append.mpr ⟨key_ne_nil_of_mem_itemsOn, named⟩⟩

/-- With a key set, a document yields its value, and otherwise what it yielded before. -/
theorem SetIn.yields_iff (made : SetIn key literal strips lines) {items : List Item}
    (named : ∀ item ∈ items, item.key ≠ []) {values : String → Option Value}
    (own : values name = valueAt name strips) :
    Yields (itemsOn strips ++ items) values ↔
      Yields (itemsOn lines ++ items) (Function.update values name content) := by
  cases made with
  | @replaced front back f closed whole apart =>
      obtain ⟨before, -⟩ := List.forall_mem_append.mp apart
      rw [valueAt_field whole before] at own
      simp only [itemsOn_append, itemsOn_field, List.append_assoc, List.cons_append, whole,
        Field.put, yields_entry_iff isEntry_of_mem_itemsOn (named_of_append named), own,
        Function.update_self, Function.update_idem, true_and]
  | @added front back apart =>
      rw [valueAt_of_not_opens apart] at own
      have same : Function.update values name none = values := by
        rw [← own, Function.update_eq_self]
      simp only [itemsOn_append, itemsOn_field, itemsOn_shut, List.append_assoc, List.cons_append]
      rw [show (newField key literal).key = [name] from rfl,
        yields_entry_iff isEntry_of_mem_itemsOn (named_of_append named), Function.update_self,
        Function.update_idem, same]
      exact (and_iff_right rfl).symm

/-! ## Plain keys -/

theorem not_opens_of_spares {items : List Item}
    (spares : Content.Spares name [] (itemsOn strips ++ items)) :
    ∀ strip ∈ strips, ¬strip.Opens name := by
  induction strips with
  | nil => simp
  | cons strip rest ih =>
      obtain ⟨piece, closed⟩ := strip
      refine List.forall_mem_cons.mpr ⟨?_, ?_⟩
      · rintro ⟨f, held, opens⟩
        cases piece with
        | field own =>
            cases held
            exact spares.1 opens
        | _ => cases held
      · cases piece with
        | field own => exact ih spares.2
        | _ => exact ih spares

/-- A key that is the whole key of an entry, or has no value, is plain where the document can be
read, and the entry has its value. -/
theorem plainAt_of_yields {items : List Item} (named : ∀ item ∈ items, item.key ≠ [])
    {values : String → Option Value} (yields : Yields (itemsOn strips ++ items) values)
    (whole : values name = none ∨ ∃ f ∈ Layout.fieldsOn strips, f.key = [name]) :
    PlainAt name strips ∧ values name = valueAt name strips := by
  rcases whole with free | ⟨f, member, single⟩
  · have named : ∀ item ∈ itemsOn strips ++ items, item.key ≠ [] :=
      List.forall_mem_append.mpr ⟨key_ne_nil_of_mem_itemsOn, named⟩
    have apart := not_opens_of_spares (yields.spares named free)
    exact ⟨.inl (openings_eq_nil_iff.mpr apart), free.trans (valueAt_of_not_opens apart).symm⟩
  · obtain ⟨⟨piece, closed⟩, among, held⟩ := List.mem_filterMap.mp member
    cases piece with
    | field own =>
        cases held
        obtain ⟨front, back, rfl⟩ := List.append_of_mem among
        rw [itemsOn_append, itemsOn_field, List.append_assoc, List.cons_append, single,
          yields_entry_iff isEntry_of_mem_itemsOn (named_of_append named)] at yields
        obtain ⟨given, others⟩ := yields
        rw [← List.append_assoc, ← itemsOn_append] at others
        have named : ∀ item ∈ itemsOn (front ++ back) ++ items, item.key ≠ [] :=
          List.forall_mem_append.mpr ⟨key_ne_nil_of_mem_itemsOn, named⟩
        have apart := not_opens_of_spares
          (others.spares named (Function.update_self name none values))
        obtain ⟨before, behind⟩ := List.forall_mem_append.mp apart
        refine ⟨.inr ?_, given.trans (valueAt_field single before).symm⟩
        have opens : f.key.head? = some name := by rw [single]; rfl
        rw [openings_append, openings_eq_nil_iff.mpr before, openings_cons_of_opens rfl opens,
          openings_eq_nil_iff.mpr behind, single]
        rfl
    | _ => cases held

end SetIn

/-! ## The text -/

namespace Layout

/-- Lines with their line feeds leave no line open. -/
theorem leavesOpen_stripsText {strips : List Strip} (ordered : Ordered False strips) :
    leavesOpen false (stripsText strips) = false := by
  induction strips with
  | nil => rfl
  | cons strip rest ih =>
      have closed : strip.closed = true := ordered.1.resolve_right fun last => last.2.2
      rw [stripsText, List.flatMap_cons, leavesOpen_append, Strip.text, Strip.feed, if_pos closed,
        leavesOpen_feed]
      exact ih ordered.2

/-- The text of a document is that of its lines before the first header, and of what follows. -/
theorem documentText_append {strips : List Strip} {others : List Node}
    (ordered : Ordered (others = []) strips) :
    documentText (nodesOf strips ++ others) = stripsText strips ++ documentText others := by
  rw [documentText, textOf_append, textOf_nodesOf]
  cases others with
  | nil => rfl
  | cons node others =>
      rw [leavesOpen_stripsText (ordered.mono (List.cons_ne_nil node others))]
      rfl

theorem opensLine_setOff (node : Node) : node.setOff.opensLine = node.opensLine := by
  cases node <;> rfl

theorem name?_setOff (node : Node) : node.setOff.name? = node.name? := by
  cases node <;> rfl

/-- A node that opens a line is set off by a line feed at most. -/
theorem text_setOff {node : Node} (opens : node.opensLine = true) :
    ∃ feeds, node.setOff.text none = List.replicate feeds '\n' ++ node.text none := by
  cases node with
  | table part indent origin body =>
      by_cases there : '\n' ∈ indent
      · exact ⟨0, by simp [Node.setOff, there]⟩
      · cases origin with
        | dotted => cases opens
        | implied =>
            cases indent with
            | nil => exact ⟨1, by simp [Node.setOff, Node.text]⟩
            | cons c indent =>
                have single : c ≠ '\n' := fun same => there (same ▸ List.mem_cons_self)
                exact ⟨0, by simp [Node.setOff, Node.text, there, single]⟩
        | header title tail =>
            exact ⟨1, by simp [Node.setOff, there, Node.text, leavesOpen_cons]⟩
        | again array tail =>
            exact ⟨1, by simp [Node.setOff, there, Node.text, leavesOpen_cons]⟩
  | tables part items => exact ⟨0, rfl⟩
  | _ => cases opens

section SetOff

variable {others next : List Node} (off : SetOff others next)
include off

theorem SetOff.eq_nil_iff : next = [] ↔ others = [] := by
  cases off <;> simp

theorem SetOff.stands {strips lines : List Strip} (stands : Stands (nodesOf strips) others) :
    Stands (nodesOf lines) next where
  plain := not_opensLine_of_mem_nodesOf
  headed := by
    cases off with
    | same => exact stands.headed
    | first node rest =>
        obtain ⟨own, later⟩ := List.forall_mem_cons.mp stands.headed
        exact List.forall_mem_cons.mpr ⟨(opensLine_setOff node).trans own, later⟩

theorem SetOff.name? {points : List Nat} (apart : ∀ node ∈ others, node.name? ≠ some points) :
    ∀ node ∈ next, node.name? ≠ some points := by
  cases off with
  | same => exact apart
  | first node rest =>
      obtain ⟨own, later⟩ := List.forall_mem_cons.mp apart
      exact List.forall_mem_cons.mpr ⟨(name?_setOff node).symm ▸ own, later⟩

/-- What follows the lines before the first header is set off by a line feed at most. -/
theorem SetOff.documentText (headed : ∀ node ∈ others, node.opensLine = true) :
    ∃ feeds, (others = [] → feeds = 0) ∧ Layout.documentText next =
      List.replicate feeds '\n' ++ Layout.documentText others := by
  cases off with
  | same => exact ⟨0, fun _ => rfl, rfl⟩
  | first node rest =>
      obtain ⟨feeds, text⟩ := text_setOff (headed node List.mem_cons_self)
      refine ⟨feeds, fun impossible => absurd impossible (List.cons_ne_nil _ _), ?_⟩
      rw [Layout.documentText, Layout.documentText, textOf, textOf]
      simp only [Bool.false_and, Bool.false_eq_true, if_false, text, leavesOpen_replicate,
        List.append_assoc]

end SetOff

end Layout

/-! ## Line feeds -/

def emptyLine : Cut :=
  ⟨none, [], ['\n']⟩

theorem cuts_replicate (feeds : Nat) (body : List Char) :
    cuts (List.replicate feeds '\n' ++ body) =
      (List.replicate feeds emptyLine ++ (cuts body).1, (cuts body).2) := by
  induction feeds with
  | zero => rfl
  | succ feeds ih =>
      have read : readItem ('\n' :: (List.replicate feeds '\n' ++ body)) =
          .ok (none, List.replicate feeds '\n' ++ body) := rfl
      have own : taken ('\n' :: (List.replicate feeds '\n' ++ body))
          (List.replicate feeds '\n' ++ body) = ['\n'] :=
        taken_append ['\n'] _
      rw [List.replicate_succ, List.cons_append, cuts_of_readItem (List.cons_ne_nil _ _) read, ih,
        cutOf, own]
      · rfl
      · rintro key content ⟨⟩

theorem itemsIn_replicate (feeds : Nat) (lines : List Cut) :
    itemsIn (List.replicate feeds emptyLine ++ lines) = itemsIn lines := by
  induction feeds with
  | zero => rfl
  | succ feeds ih => exact ih

theorem remarksOn_replicate (out : List (List String)) (feeds : Nat) (lines : List Cut) :
    remarksOn out (List.replicate feeds emptyLine ++ lines) = remarksOn out lines := by
  induction feeds with
  | zero => rfl
  | succ feeds ih => exact ih

end CommandDocs.Toml

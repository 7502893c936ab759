import CommandDocs.Proofs.Toml.Merge.Merged
import CommandDocs.Proofs.Toml.Sections.Blocks

/-!
# Documents with tables in order

A document consists of the lines before its first header and of its sections, each a header with
the lines that follow it.  When the headers come in order, the document is kept as it is written.
-/

namespace CommandDocs.Toml

open Layout (Part Head Block Node Keeps Alike InOrder spellingOf nodesOf fieldsOn)

/-! ## Sections -/

/-- A header with the lines up to the next one. -/
structure Section where
  indent : List Char
  array : Bool
  key : List Part
  tail : List Char
  closed : Bool
  strips : List Strip
  white : IsSpace indent
  ended : IsTail tail
  read : ∀ rest, Layout.readKey (spellingOf key ++ ']' :: rest) = .ok (key, ']' :: rest)

namespace Section

def feed (s : Section) : List Char :=
  if s.closed then ['\n'] else []

/-- The line of a header, without its line feed. -/
def header (s : Section) : List Char :=
  s.indent ++ (if s.array then '[' :: '[' :: spellingOf s.key ++ ']' :: ']' :: s.tail
    else '[' :: spellingOf s.key ++ ']' :: s.tail)

def text (s : Section) : List Char :=
  s.header ++ s.feed ++ stripsText s.strips

def head (s : Section) : Head :=
  ⟨s.key, s.array⟩

def block (s : Section) : Block :=
  ⟨s.indent, s.array, s.key, s.tail ++ s.feed, nodesOf s.strips⟩

theorem key_ne_nil (s : Section) : s.key ≠ [] :=
  Layout.readParts_ne_nil (s.read [])

theorem header_block (s : Section) : s.block.header = s.header ++ s.feed := by
  cases array : s.array <;> simp [Layout.Block.header, block, header, array]

theorem text_block (s : Section) : s.block.text = s.text := by
  rw [Layout.Block.text, header_block, block, Layout.textOf_nodesOf]
  rfl

end Section

def sectionsText (sections : List Section) : List Char :=
  sections.flatMap Section.text

/-- Whether every line has its line feed, up to the last one of all. -/
def AreClosed : List Section → Prop
  | [] => True
  | s :: rest =>
      (s.closed = true ∨ s.strips = [] ∧ rest = []) ∧ Ordered (rest = []) s.strips ∧ AreClosed rest

theorem ordered_of_closed {ends : Prop} {strips : List Strip}
    (closed : ∀ strip ∈ strips, strip.closed = true) : Ordered ends strips := by
  induction strips with
  | nil => trivial
  | cons strip strips ih =>
      obtain ⟨own, others⟩ := List.forall_mem_cons.mp closed
      exact ⟨.inl own, ih others⟩

theorem areClosed_of_closed {sections : List Section}
    (closed : ∀ s ∈ sections, s.closed = true ∧ ∀ strip ∈ s.strips, strip.closed = true) :
    AreClosed sections := by
  induction sections with
  | nil => trivial
  | cons s rest ih =>
      obtain ⟨⟨own, lines⟩, others⟩ := List.forall_mem_cons.mp closed
      exact ⟨.inl own, ordered_of_closed lines, ih others⟩

/-- A document with tables on whose lines both readers agree.  Its headers come in order: they spell
the same key alike, and they go back to tables in a harmless way only.  In an item of an array with
a single name no header repeats that name, and a header with spaces before it has two parts at
most. -/
structure IsSectioned (strips : List Strip) (sections : List Section) : Prop where
  ordered : Ordered (sections = []) strips
  closed : AreClosed sections
  kept : ∀ f ∈ fieldsOn strips ++ sections.flatMap fun s => fieldsOn s.strips, Keeps f
  single : '\r' ∉ stripsText strips ++ sectionsText sections
  inOrder : InOrder (sections.map Section.head)
  alike : ∀ s ∈ sections, ∀ t ∈ sections, Alike s.key t.key
  once : ∀ s ∈ sections, ∀ t ∈ sections, s.array = true → s.head.path.length = 1 →
    s.head.path <+: t.head.path → ∀ name ∈ s.head.path, name ∉ t.head.path.tail
  flush : ∀ s ∈ sections, s.key.length ≤ 2 ∨ ' ' ∉ s.indent

/-! ## Reading sections -/

namespace Layout

theorem readKey_bracket (s : List Char) : readKey ('[' :: s) = .error .refused := by
  have dark : Text.isGap '[' = false := rfl
  have plain : isBare '[' = false := by decide
  simp [readKey, depthLimit, readParts, readPart, readBare, dark, plain, Text.trimGaps,
    Text.trimBoth, Text.dropEndWhile]

theorem readHeader_table {inside rest : List Char} (apart : ∀ others, inside ≠ '[' :: others)
    {key : List Part} (read : readKey inside = .ok (key, ']' :: rest)) (indent : List Char) :
    readHeader indent inside = (readTail rest).map fun (tail, after) =>
      (.header indent false key (tail.text []), after) := by
  unfold readHeader
  split
  rename_i opened
  split at opened
  · exact absurd rfl (apart _)
  · cases opened
    simp [read]

/-- What stands between the first bracket of a header and the rest of its line. -/
theorem readHeader_section (s : Section) {after rest : List Char} {tail : Tail}
    (read : readTail after = .ok (tail, rest)) :
    readHeader s.indent (if s.array then '[' :: spellingOf s.key ++ ']' :: ']' :: after
      else spellingOf s.key ++ ']' :: after) =
        .ok (.header s.indent s.array s.key (tail.text []), rest) := by
  cases array : s.array with
  | true => simp [readHeader, s.read, read, Except.map]
  | false =>
      have key := s.read after
      simp only [Bool.false_eq_true, if_false]
      rw [readHeader_table _ key, read]
      · rfl
      · intro others bracket
        rw [bracket, readKey_bracket] at key
        cases key

theorem readLine_header (s : Section) {rest : List Char} (follows : Follows (s.feed ++ rest) rest)
    (fuel : Nat) :
    readLine fuel (s.header ++ (s.feed ++ rest)) =
      .ok (.header s.indent s.array s.key (s.tail ++ s.feed), rest) := by
  obtain ⟨tail, read, whole⟩ := readTail_tail follows s.ended
  rw [← List.append_assoc] at whole
  have same := List.append_cancel_right whole
  have text : s.header ++ (s.feed ++ rest) = s.indent ++ '[' ::
      (if s.array then '[' :: spellingOf s.key ++ ']' :: ']' :: (s.tail ++ (s.feed ++ rest))
        else spellingOf s.key ++ ']' :: (s.tail ++ (s.feed ++ rest))) := by
    cases array : s.array <;> simp [Section.header, array]
  have dark := not_gap_cons (d := '[') rfl
    (if s.array then '[' :: spellingOf s.key ++ ']' :: ']' :: (s.tail ++ (s.feed ++ rest))
      else spellingOf s.key ++ ']' :: (s.tail ++ (s.feed ++ rest)))
  unfold readLine
  rw [text, dropWhile_space s.white dark, takeWhile_space s.white dark]
  simp only [readHeader_section s read, same]

def linesIn (s : Section) : List Line :=
  .header s.indent s.array s.key (s.tail ++ s.feed) :: (nodesOf s.strips).map .node

theorem linesOf?_sectionsText {sections : List Section} (closed : AreClosed sections)
    (kept : ∀ f ∈ sections.flatMap fun s => fieldsOn s.strips, Keeps f) {fuel : Nat}
    (enough : 3 * (sectionsText sections).length + 1 ≤ fuel) :
    linesOf? fuel (sectionsText sections) = some (sections.flatMap linesIn) := by
  induction sections generalizing fuel with
  | nil => cases fuel <;> rfl
  | cons s rest ih =>
      obtain ⟨own, ordered, closed⟩ := closed
      rw [List.flatMap_cons, List.forall_mem_append] at kept
      have whole : sectionsText (s :: rest) =
          s.header ++ (s.feed ++ (stripsText s.strips ++ sectionsText rest)) := by
        simp [sectionsText, Section.text]
      have follows : Follows (s.feed ++ (stripsText s.strips ++ sectionsText rest))
          (stripsText s.strips ++ sectionsText rest) := by
        rcases own with closed | ⟨none, rfl⟩
        · rw [Section.feed, if_pos closed]
          exact .feed _
        · rw [none, Section.feed]
          split
          · exact .feed _
          · exact .nothing
      have long : 0 < s.header.length := by
        cases array : s.array <;> simp [Section.header, array]
      rw [whole] at enough ⊢
      simp only [List.length_append] at enough
      obtain ⟨fuel, rfl⟩ : ∃ less, fuel = less + 1 := ⟨fuel - 1, by omega⟩
      have last : rest = [] → sectionsText rest = [] := by
        rintro rfl
        rfl
      have room : 3 * (stripsText s.strips ++ sectionsText rest).length + 1 ≤ fuel := by
        rw [List.length_append]
        omega
      obtain ⟨more, room, lines⟩ := linesOf?_stripsText kept.1 ordered last room
      rw [linesOf?, readLine_header s follows fuel]
      · simp only [lines, ih closed kept.2 room]
        simp [linesIn]
      · intro empty
        have none := congrArg List.length empty
        simp only [List.length_append, List.length_nil] at none
        omega

theorem blocksOf_linesIn (sections : List Section) :
    blocksOf (sections.flatMap linesIn) = ([], sections.map Section.block) := by
  induction sections with
  | nil => rfl
  | cons s rest ih =>
      rw [List.flatMap_cons, linesIn, List.cons_append, blocksOf, blocksOf_append, ih]
      simp [Section.block]

/-! ## Keeping sections -/

theorem spacesOf_of_not_mem {indent : List Char} (flush : ' ' ∉ indent) : spacesOf indent = [] := by
  have all : ∀ c ∈ indent, (c != ' ') = true := by
    rintro c member
    simp only [bne_iff_ne]
    rintro rfl
    exact flush member
  rw [spacesOf, List.dropWhile_eq_nil_iff.mpr all]
  rfl

theorem areShut_blocks {sections : List Section} (closed : AreClosed sections) :
    AreShut (sections.map Section.block) := by
  induction sections with
  | nil =>
      rintro front b back impossible
      simp at impossible
  | cons s rest ih =>
      obtain ⟨own, ordered, closed⟩ := closed
      rintro front b back whole filled
      cases front with
      | cons first front =>
          obtain ⟨-, whole⟩ := List.cons.inj whole
          exact ih closed front b back whole filled
      | nil =>
          obtain ⟨rfl, rfl⟩ := List.cons.inj whole
          have others : rest ≠ [] := by simpa using filled
          have fed : s.closed = true := own.resolve_right fun last => others last.2
          rw [Section.text_block, Section.text, leavesOpen_append, Section.feed, if_pos fed,
            leavesOpen_feed]
          exact leavesOpen_stripsText (ordered.mono others)

end Layout

section Sectioned

variable {strips : List Strip} {sections : List Section} (sectioned : IsSectioned strips sections)
include sectioned

theorem IsSectioned.areKept : Layout.AreKept (sections.map Section.block) where
  plain b member := by
    obtain ⟨s, among, rfl⟩ := List.mem_map.mp member
    refine ⟨s.key_ne_nil, Layout.not_opensLine_of_mem_nodesOf, fun outer opened => ?_, ?_, ?_⟩
    · rw [Section.block, Layout.textOf_nodesOf, Layout.textOf_nodesOf]
    · intro fed
      have gap := s.white '\n' (by rw [show s.indent = ['\n'] from fed]; simp)
      cases gap
    · exact (sectioned.flush s among).imp_right Layout.spacesOf_of_not_mem
  alike := by
    refine List.forall_mem_map.mpr fun s member => List.forall_mem_map.mpr fun t among => ?_
    exact sectioned.alike s member t among
  once := by
    refine List.forall_mem_map.mpr fun s member => List.forall_mem_map.mpr fun t among => ?_
    exact sectioned.once s member t among

theorem IsSectioned.stand :
    Layout.Stand (sections.map Section.block) [] [] (sections.map Section.block) where
  among _ member := member
  inside := by
    refine List.forall_mem_map.mpr fun s _ => ⟨s.key, s.key_ne_nil, rfl⟩
  ordered := by
    rw [List.nil_append, List.map_map]
    exact sectioned.inOrder
  apart := by simp

/-- A document with tables in order is kept as it is written, and its tables are those of its
headers. -/
theorem IsSectioned.documentText {nodes : List Node}
    (read : Layout.readNodes? (stripsText strips ++ sectionsText sections) = some nodes) :
    Layout.documentText nodes = stripsText strips ++ sectionsText sections ∧
      ∀ node ∈ nodes, node.opensLine = true → ∃ s ∈ sections, node.name? = s.head.path.head? := by
  obtain ⟨kept, others⟩ := List.forall_mem_append.mp sectioned.kept
  unfold Layout.readNodes? at read
  simp only [Option.bind_eq_bind, Option.bind_eq_some_iff] at read
  obtain ⟨lines, lined, entries, joined, added⟩ := read
  have last : sections = [] → sectionsText sections = [] := by
    rintro rfl
    rfl
  have enough : 3 * (stripsText strips ++ sectionsText sections).length + 1 ≤
      Layout.readFuel (stripsText strips ++ sectionsText sections) := by
    rw [Layout.readFuel]
    omega
  obtain ⟨more, room, cut⟩ :=
    Layout.linesOf?_stripsText kept sectioned.ordered last enough
  rw [cut, Layout.linesOf?_sectionsText sectioned.closed others room] at lined
  cases lined
  simp only [Layout.blocksOf_append, Layout.blocksOf_linesIn, List.append_nil] at joined added
  cases Layout.joinEntries?_eq_some joined
  have recalls : Layout.Recalls (sections.map Section.block) [] [] := by
    rintro name ⟨⟩
  obtain ⟨⟨blocks, among, tracks⟩, text⟩ := Layout.addBlocks?_inOrder sectioned.areKept
    sectioned.stand recalls (.plain Layout.not_opensLine_of_mem_nodesOf)
    (Layout.areShut_blocks sectioned.closed) added
  constructor
  · have own := text false fun filled => by
      rw [Layout.textOf_nodesOf]
      refine Layout.leavesOpen_stripsText (sectioned.ordered.mono fun empty => filled ?_)
      rw [empty]
      rfl
    rw [Layout.textOf_nodesOf, List.flatMap_map] at own
    exact own.trans (congrArg (stripsText strips ++ sections.flatMap ·) (funext Section.text_block))
  · intro node member opens
    obtain ⟨front, back, rfl⟩ := List.append_of_mem member
    obtain ⟨early, behind, whole, ⟨head, first, opened⟩, -⟩ := tracks.split rfl opens
    have inside : head ∈ blocks.map (Layout.Block.head 0) := by
      rw [show blocks.map (Layout.Block.head 0) = early ++ behind from whole]
      exact List.mem_append_left _ first
    obtain ⟨b, own, rfl⟩ := List.mem_map.mp inside
    obtain ⟨s, of, rfl⟩ := List.mem_map.mp (among b own)
    exact ⟨s, of, opened.named⟩

theorem IsSectioned.isHeaded : IsHeaded strips (sectionsText sections) where
  ordered := sectioned.ordered.mono fun none => by
    rw [none]
    rfl
  kept := (List.forall_mem_append.mp sectioned.kept).1
  opens := by
    cases sections with
    | nil => exact .inl rfl
    | cons s rest =>
        refine .inr ?_
        cases array : s.array <;>
        · simp only [sectionsText, List.flatMap_cons, Section.text, Section.header, array,
            List.append_assoc, Bool.false_eq_true, if_false, if_true, List.cons_append]
          rw [dropWhile_space s.white (not_gap_cons rfl _)]
          exact ⟨_, rfl⟩
  single := sectioned.single

end Sectioned

/-! ## Bare headers -/

def bareParts (names : List String) : List Part :=
  names.map fun name => ⟨pointsOf name, name.toList⟩

/-- Bare names without spaces spell the same key alike. -/
theorem alike_bareParts (names others : List String) :
    Alike (bareParts names) (bareParts others) := by
  intro count same
  have points : (names.take count).map pointsOf = (others.take count).map pointsOf := by
    simpa [bareParts, ← List.map_take, Function.comp_def] using same
  have both := List.map_injective_iff.mpr pointsOf_injective points
  simp [bareParts, ← List.map_take, both]

def isBareName (name : String) : Bool :=
  !name.toList.isEmpty && name.toList.all isBare

/-- A key of bare names is read up to the bracket that closes its header. -/
theorem readParts_bareParts {names : List String} (bare : names.all isBareName = true)
    (shown : names ≠ []) {most : Nat} (short : names.length ≤ most) (rest : List Char) :
    Layout.readParts most (spellingOf (bareParts names) ++ ']' :: rest) =
      .ok (bareParts names, ']' :: rest) := by
  induction names generalizing most with
  | nil => exact absurd rfl shown
  | cons name names ih =>
      rw [List.all_cons, Bool.and_eq_true] at bare
      obtain ⟨first, others⟩ := bare
      obtain ⟨own, plain⟩ : name.toList ≠ [] ∧ ∀ c ∈ name.toList, isBare c = true := by
        simpa [isBareName] using first
      obtain ⟨most, rfl⟩ := Nat.exists_eq_add_one_of_ne_zero (Nat.ne_zero_of_lt short)
      have read {stop : Char} (apart : isBare stop = false) (dark : Text.isGap stop = false)
          (s : List Char) : Layout.readPart (name.toList ++ stop :: s) =
            .ok (⟨pointsOf name, name.toList⟩, stop :: s) := by
        have part := Layout.readPart_bare plain isSpace_nil own apart dark s
        rwa [List.append_nil] at part
      cases names with
      | nil =>
          rw [Layout.readParts, bareParts, List.map_singleton, spellingOf, read (by decide) rfl]
          rfl
      | cons next names =>
          have later := ih others (List.cons_ne_nil next names) (Nat.le_of_succ_le_succ short)
          have whole : spellingOf (bareParts (name :: next :: names)) ++ ']' :: rest =
              name.toList ++ '.' :: (spellingOf (bareParts (next :: names)) ++ ']' :: rest) := by
            simp [bareParts, spellingOf]
          rw [whole, Layout.readParts, read (by decide) rfl]
          simp only [later]
          rfl

/-- Whether some names are a key that needs no quotes. -/
def isBareKey (names : List String) : Bool :=
  names.all isBareName && !names.isEmpty && names.length ≤ 100

theorem read_of_isBareKey {names : List String} (bare : isBareKey names = true) (rest : List Char) :
    Layout.readParts 100 (spellingOf (bareParts names) ++ ']' :: rest) =
      .ok (bareParts names, ']' :: rest) := by
  simp only [isBareKey, Bool.and_eq_true, Bool.not_eq_true', decide_eq_true_eq] at bare
  obtain ⟨⟨named, shown⟩, short⟩ := bare
  exact readParts_bareParts named (List.isEmpty_eq_false_iff.mp shown) short rest

def bareSection (names : List String) (array : Bool) (strips : List Strip)
    (bare : isBareKey names = true) : Section where
  indent := []
  array := array
  key := bareParts names
  tail := []
  closed := true
  strips := strips
  white := isSpace_nil
  ended := isTail_nil
  read := read_of_isBareKey bare

end CommandDocs.Toml

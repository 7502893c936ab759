import CommandDocs.Proofs.Toml.Sections.Joining

/-!
# Blocks in order

A document whose headers come in order, and spell their keys alike, is kept as its blocks one after
the other.
-/

namespace CommandDocs.Toml.Layout

/-! ## The text of a block -/

namespace Block

/-- The line of a header. -/
def header (b : Block) : List Char :=
  let title := spellingOf b.key
  b.indent ++ (if b.array then '[' :: '[' :: title ++ ']' :: ']' :: b.tail
    else '[' :: title ++ ']' :: b.tail)

def text (b : Block) : List Char :=
  b.header ++ textOf none false b.nodes

/-- A header as it is seen from the table around, whose key has some number of parts. -/
def head (depth : Nat) (b : Block) : Head :=
  ⟨b.key.drop depth, b.array⟩

/-- Whether a block has a key and lines whose text is the same in every table.  A header with spaces
before it has two parts at most. -/
structure IsPlain (b : Block) : Prop where
  shown : b.key ≠ []
  lines : ∀ node ∈ b.nodes, node.opensLine = false
  same : ∀ outer opened, textOf outer opened b.nodes = textOf none false b.nodes
  bare : b.indent ≠ ['\n']
  flush : b.key.length ≤ 2 ∨ spacesOf b.indent = []

end Block

/-- A table is written with its header and what stands in it. -/
theorem text_headedNode {b : Block} {body : List Node} {indent : List Char} {parts : List Part}
    {outer : Option (List Char)} (shown : parts ≠ [])
    (spelled : spellingIn outer parts = spellingOf b.key) (bare : indent ≠ ['\n'])
    (inner : b.indent ≠ ['\n']) :
    (headedNode b body indent parts).text outer =
      b.header ++ textOf (some (spellingOf b.key)) (leavesOpen false b.header) body := by
  induction parts generalizing outer indent with
  | nil => exact absurd rfl shown
  | cons part rest ih =>
      cases rest with
      | nil =>
          rw [spellingIn_singleton] at spelled
          rw [headedNode]
          cases array : b.array <;>
            simp [Node.text, textOfItems, Origin.tail, Block.header, array, spelled]
      | cons next rest =>
          rw [spellingIn_cons] at spelled
          have later := ih (List.cons_ne_nil next rest) spelled inner
          simp [headedNode, Node.text, bare, textOf, later]

theorem blockNode_eq_headedNode {b : Block} {array : List (List Nat)} {body : List Node}
    {parts : List Part} (other : ∀ part ∈ parts, array ≠ [part.name]) :
    blockNode b array body parts = headedNode b body [] parts := by
  rcases parts with _ | ⟨part, _ | ⟨next, rest⟩⟩
  · rfl
  · cases array : b.array <;> simp [blockNode, headedNode, array]
  · have apart : (array == [part.name]) = false := by simpa using other part List.mem_cons_self
    simp [blockNode, headedNode, apart]

/-! ## Keys within keys -/

def spellingAround (parts : List Part) : Option (List Char) :=
  if parts.isEmpty then none else some (spellingOf parts)

theorem spellingOf_append {parts rest : List Part} (shown : parts ≠ []) (filled : rest ≠ []) :
    spellingOf (parts ++ rest) = spellingOf parts ++ '.' :: spellingOf rest := by
  induction parts with
  | nil => exact absurd rfl shown
  | cons part parts ih =>
      cases parts with
      | nil =>
          obtain ⟨next, rest, rfl⟩ := List.exists_cons_of_ne_nil filled
          rfl
      | cons next parts =>
          have later := ih (List.cons_ne_nil next parts)
          simp [spellingOf] at later ⊢
          exact later

theorem spellingIn_around {parts rest : List Part} (filled : rest ≠ []) :
    spellingIn (spellingAround parts) rest = spellingOf (parts ++ rest) := by
  cases parts with
  | nil => rfl
  | cons part parts => exact (spellingOf_append (List.cons_ne_nil part parts) filled).symm

theorem Alike.of_append {key rest others : List Part} (alike : Alike (key ++ rest) (key ++ others)) :
    Alike rest others := by
  induction key with
  | nil => exact alike
  | cons part key ih => exact ih alike.tail

/-- Headers in a table are in order as they are seen from it. -/
theorem InOrder.of_within {key : List Part} {heads : List Head}
    (ordered : InOrder (heads.map fun head => ⟨key ++ head.parts, head.array⟩))
    (shown : ∀ head ∈ heads, head.parts ≠ []) : InOrder heads := by
  induction key with
  | nil => simpa using ordered
  | cons part key ih =>
      have under : InOrder ((heads.map fun head => ⟨key ++ head.parts, head.array⟩).map
          (Head.under part)) := by
        rw [List.map_map]
        exact ordered
      refine ih (under.of_under (List.forall_mem_map.mpr fun head member => ?_))
      simp [shown head member]

theorem exists_key_of_isBelow {b outer : Block} (below : b.isBelow outer = true)
    (alike : Alike b.key outer.key) : ∃ rest, rest ≠ [] ∧ b.key = outer.key ++ rest := by
  simp only [Block.isBelow, Bool.and_eq_true, List.isPrefixOf_iff_prefix, decide_eq_true_eq] at below
  obtain ⟨starts, longer⟩ := below
  have same := alike outer.key.length (by
    rw [List.map_take, List.take_length]
    have long : outer.path.length = outer.key.length := List.length_map _
    rw [← long]
    exact (List.prefix_iff_eq_take.mp starts).symm)
  rw [List.take_length] at same
  refine ⟨b.key.drop outer.key.length, ?_, ?_⟩
  · simpa using longer
  · exact (List.take_append_drop outer.key.length b.key).symm.trans (by rw [same])

/-! ## Documents in order -/

/-- What is asked of the blocks of a document, apart from their order: their headers spell the same
key alike, and no header below an array of tables with a single name repeats that name. -/
structure AreKept (all : List Block) : Prop where
  plain : ∀ b ∈ all, b.IsPlain
  alike : ∀ b ∈ all, ∀ c ∈ all, Alike b.key c.key
  once : ∀ b ∈ all, ∀ c ∈ all, b.array = true → b.path.length = 1 → b.path <+: c.path →
    ∀ name ∈ b.path, name ∉ c.path.tail

/-- The blocks of the tables in a table with a key: those that are added already, and those that
are still to come. -/
structure Stand (all : List Block) (key : List Part) (done blocks : List Block) : Prop where
  among : ∀ b ∈ done ++ blocks, b ∈ all
  inside : ∀ b ∈ done ++ blocks, ∃ rest, rest ≠ [] ∧ b.key = key ++ rest
  ordered : InOrder ((done ++ blocks).map (Block.head key.length))
  apart : ∀ b ∈ done.getLast?, ∀ c ∈ blocks.head?, c.isBelow b = false

section Stand

variable {all done below others blocks : List Block} {key : List Part} {b : Block}

theorem Stand.comes (kept : AreKept all) (stand : Stand all key done (b :: blocks)) :
    Comes (done.map (Block.head key.length)) (b.head key.length) where
  ordered := by
    have ordered := stand.ordered
    rw [← List.singleton_append, ← List.append_assoc, List.map_append] at ordered
    simpa using ordered.of_append_left
  apart last final := by
    rw [List.getLast?_map] at final
    obtain ⟨c, latest, rfl⟩ := Option.map_eq_some_iff.mp final
    have apart := stand.apart c latest b rfl
    have member : c ∈ done := List.mem_of_getLast? latest
    obtain ⟨rest, -, first⟩ := stand.inside c (List.mem_append_left _ member)
    obtain ⟨others, -, second⟩ := stand.inside b (by simp)
    rintro ⟨starts, different⟩
    simp only [Block.head, Head.path, first, second, List.drop_left] at starts different
    refine absurd apart ?_
    simp only [Block.isBelow, Block.path, first, second, List.map_append, Bool.not_eq_false,
      Bool.and_eq_true, List.isPrefixOf_iff_prefix, List.prefix_append_right_inj, starts,
      decide_eq_true_eq, List.length_append, true_and]
    have short := starts.length_le
    rw [List.length_map, List.length_map] at short
    have unequal : rest.length ≠ others.length := fun same =>
      different (starts.eq_of_length (by simp [same]))
    omega
  alike other member := by
    obtain ⟨c, among, rfl⟩ := List.mem_map.mp member
    obtain ⟨rest, -, first⟩ := stand.inside c (List.mem_append_left _ among)
    obtain ⟨others, -, second⟩ := stand.inside b (by simp)
    have alike := kept.alike c (stand.among c (List.mem_append_left _ among)) b
      (stand.among b (by simp))
    rw [first, second] at alike
    simpa [Block.head, first, second] using alike.of_append

theorem Stand.inner (kept : AreKept all) (stand : Stand all key done (b :: (below ++ others)))
    (within : ∀ c ∈ below, c.isBelow b = true) : Stand all b.key [] below := by
  have among (c : Block) (member : c ∈ below) : c ∈ all :=
    stand.among c (List.mem_append_right _ (List.mem_cons_of_mem b (List.mem_append_left _ member)))
  have inside (c : Block) (member : c ∈ below) : ∃ rest, rest ≠ [] ∧ c.key = b.key ++ rest :=
    exists_key_of_isBelow (within c member) (kept.alike c (among c member) b
      (stand.among b (by simp)))
  refine ⟨among, inside, ?_, by simp⟩
  obtain ⟨first, -, own⟩ := stand.inside b (by simp)
  have ordered : InOrder (below.map (Block.head key.length)) := by
    have whole := stand.ordered
    rw [List.map_append] at whole
    have whole := whole.of_append_right.2
    rw [List.map_append] at whole
    exact whole.of_append_left
  have within : InOrder ((below.map (Block.head b.key.length)).map fun head =>
      ⟨first ++ head.parts, head.array⟩) := by
    rw [List.map_map]
    convert ordered using 1
    refine List.map_congr_left fun c member => ?_
    obtain ⟨rest, -, same⟩ := inside c member
    simp [Block.head, same, own]
  refine within.of_within (List.forall_mem_map.mpr fun c member => ?_)
  obtain ⟨rest, filled, same⟩ := inside c member
  simpa [Block.head, same] using filled

theorem Stand.next (kept : AreKept all) (stand : Stand all key done (b :: (below ++ others)))
    (within : ∀ c ∈ below, c.isBelow b = true)
    (apart : ∀ c ∈ others.head?, c.isBelow b = false) : Stand all key (done ++ [b]) others := by
  have among : ∀ c ∈ (done ++ [b]) ++ others, c ∈ done ++ b :: (below ++ others) := by
    intro c member
    simp only [List.mem_append, List.mem_cons, List.not_mem_nil, or_false] at member ⊢
    tauto
  refine ⟨fun c member => stand.among c (among c member),
    fun c member => stand.inside c (among c member), ?_, by simpa using apart⟩
  have ordered := stand.ordered
  rw [List.map_append, List.map_cons, List.map_append] at ordered
  have skipped := ordered.skip (List.forall_mem_map.mpr fun c member => ?_)
  · simpa using skipped
  · obtain ⟨first, -, own⟩ := stand.inside b (by simp)
    have alike := kept.alike c (stand.among c (by simp [member])) b (stand.among b (by simp))
    obtain ⟨rest, filled, same⟩ := exists_key_of_isBelow (within c member) alike
    simp [Encloses, Block.head, Head.path, same, own, filled]

/-- Whether a path is that of an array of tables, when it has a single name: one that a table with
a key belongs to. -/
def Recalls (all : List Block) (key : List Part) (array : List (List Nat)) : Prop :=
  ∀ name, array = [name] → (∃ b ∈ all, b.array = true ∧ b.path = [name]) ∧
    ∀ part ∈ key.head?, part.name = name

/-- No header in an item of an array names this array again. -/
theorem Recalls.ne_name {array : List (List Nat)} (recalls : Recalls all key array)
    (kept : AreKept all) (stand : Stand all key done (b :: blocks)) (deep : key ≠ []) :
    ∀ part ∈ b.key.drop key.length, array ≠ [part.name] := by
  rintro part member same
  obtain ⟨⟨c, among, array, single⟩, first⟩ := recalls part.name same
  obtain ⟨rest, -, whole⟩ := stand.inside b (by simp)
  rw [whole, List.drop_left] at member
  obtain ⟨outer, key, rfl⟩ := List.exists_cons_of_ne_nil deep
  have path : b.path = part.name :: (key ++ rest).map Part.name := by
    rw [Block.path, whole, ← first outer rfl]
    rfl
  refine kept.once c among b (stand.among b (by simp)) array (by simp [single])
    (by simp [single, path]) part.name (by simp [single]) ?_
  rw [path]
  exact List.mem_map_of_mem (List.mem_append_right _ member)

theorem Recalls.inner {array : List (List Nat)} (recalls : Recalls all key array)
    (stand : Stand all key done (b :: blocks)) :
    Recalls all b.key (if key.length == 0 && b.path != array then [] else array) := by
  intro name same
  split at same
  · cases same
  · rename_i other
    obtain ⟨opened, first⟩ := recalls name same
    refine ⟨opened, fun part leads => ?_⟩
    cases key with
    | nil =>
        have path : b.path = array := by simpa using other
        rw [same, Block.path] at path
        obtain ⟨only, single, rfl⟩ := List.map_eq_singleton_iff.mp path
        rw [single] at leads
        cases leads
        rfl
    | cons outer key =>
        obtain ⟨rest, -, whole⟩ := stand.inside b (by simp)
        rw [whole, List.cons_append, List.head?_cons] at leads
        exact first part leads

theorem Recalls.next {array : List (List Nat)} (recalls : Recalls all key array)
    (stand : Stand all key done (b :: blocks)) :
    Recalls all key (if !(key.length == 0) then array else if b.array then b.path else []) := by
  intro name same
  cases key with
  | nil =>
      simp only [List.length_nil, beq_self_eq_true, Bool.not_true, Bool.false_eq_true,
        if_false] at same
      split at same
      · rename_i array
        exact ⟨⟨b, stand.among b (by simp), array, same⟩, by simp⟩
      · cases same
  | cons outer key => exact recalls name (by simpa using same)

end Stand

theorem exists_of_addBlocks?_cons {depth : Nat} {array : List (List Nat)} {nodes grown : List Node}
    {b : Block} {rest : List Block} (added : addBlocks? depth array nodes (b :: rest) = some grown) :
    ∃ body next,
      addBlocks? b.key.length (if depth == 0 && b.path != array then [] else array) b.nodes
        (rest.takeWhile (·.isBelow b)) = some body ∧
      join? (if depth == 0 then .top else .inside) nodes
        (blockNode b (if depth == 0 then [] else array) body (b.key.drop depth)) = some next ∧
      addBlocks? depth (if !(depth == 0) then array else if b.array then b.path else []) next
        (rest.dropWhile (·.isBelow b)) = some grown := by
  rw [addBlocks?] at added
  dsimp only at added
  split at added
  · cases added
  · rename_i entries joined
    cases joinEntries?_eq_some joined
    split at added
    · cases added
    · rename_i body inner
      split at added
      · cases added
      · rename_i next joined
        exact ⟨body, next, inner, joined, added⟩

theorem leavesOpen_flatMap {blocks : List Block}
    (shut : ∀ b ∈ blocks, leavesOpen false b.text = false) :
    leavesOpen false (blocks.flatMap Block.text) = false := by
  induction blocks with
  | nil => rfl
  | cons b rest ih =>
      obtain ⟨own, others⟩ := List.forall_mem_cons.mp shut
      rw [List.flatMap_cons, leavesOpen_append, own, ih others]

/-- Whether all blocks but the last one end with a line feed. -/
def AreShut (blocks : List Block) : Prop :=
  ∀ front b back, blocks = front ++ b :: back → back ≠ [] → leavesOpen false b.text = false

section Shut

variable {b : Block} {below others : List Block} (shut : AreShut (b :: (below ++ others)))
include shut

theorem AreShut.inner : AreShut below := by
  rintro front c back rfl filled
  exact shut (b :: front) c (back ++ others) (by simp) (by simp [filled])

theorem AreShut.next : AreShut others := by
  rintro front c back rfl filled
  exact shut (b :: (below ++ front)) c back (by simp) filled

theorem AreShut.first (filled : below ++ others ≠ []) : leavesOpen false b.text = false :=
  shut [] b (below ++ others) rfl filled

theorem AreShut.before (filled : others ≠ []) :
    leavesOpen false ((b :: below).flatMap Block.text) = false := by
  refine leavesOpen_flatMap fun c member => ?_
  obtain ⟨front, back, whole⟩ := List.append_of_mem member
  refine shut front c (back ++ others) ?_ (by simp [filled])
  rw [← List.cons_append, whole]
  simp

end Shut

section Added

variable {all done : List Block} {key : List Part} {nodes next body : List Node} {b : Block}

/-- The table of a block in order, with what stands in it, follows the nodes that are there. -/
theorem adds_of_join? {array : List (List Nat)} {blocks : List Block} {site : Site}
    (kept : AreKept all) (stand : Stand all key done (b :: blocks))
    (recalls : Recalls all key array) (tracks : Tracks (done.map (Block.head key.length)) nodes)
    (joined : join? site nodes (blockNode b (if key.length == 0 then [] else array) body
      (b.key.drop key.length)) = some next) :
    Tracks ((done ++ [b]).map (Block.head key.length)) next ∧
      ∀ opened, leavesOpen opened (textOf (spellingAround key) opened nodes) = false →
        textOf (spellingAround key) opened next = textOf (spellingAround key) opened nodes ++
          (b.header ++ textOf (some (spellingOf b.key)) (leavesOpen false b.header) body) := by
  have plain := kept.plain b (stand.among b (by simp))
  obtain ⟨rest, filled, whole⟩ := stand.inside b (by simp)
  have parts : b.key.drop key.length = rest := by rw [whole, List.drop_left]
  have other : ∀ part ∈ b.key.drop key.length,
      (if key.length == 0 then [] else array) ≠ [part.name] := by
    cases key with
    | nil => simp
    | cons outer key => exact recalls.ne_name kept stand (List.cons_ne_nil outer key)
  have deeper : rest.length ≤ 2 ∨ spacesOf b.indent = [] :=
    plain.flush.imp_left fun short => by
      rw [whole, List.length_append] at short
      omega
  rw [blockNode_eq_headedNode other, parts] at joined
  have comes := stand.comes kept
  rw [Block.head, parts] at comes
  have adds := join_headedNode tracks comes filled (.inr rfl) deeper
    (List.cons_ne_nil _ _).symm plain.bare joined
  refine ⟨?_, fun opened shut => ?_⟩
  · simpa [Block.head, parts] using adds.tracks
  · have spelled : spellingIn (spellingAround key) rest = spellingOf b.key := by
      rw [whole, spellingIn_around filled]
    rw [adds.text _ opened shut,
      text_headedNode filled spelled (List.cons_ne_nil _ _).symm plain.bare]

theorem addBlocks?_inOrder (kept : AreKept all) {array : List (List Nat)} {blocks : List Block}
    {grown : List Node} (stand : Stand all key done blocks) (recalls : Recalls all key array)
    (tracks : Tracks (done.map (Block.head key.length)) nodes)
    (shut : AreShut blocks) (added : addBlocks? key.length array nodes blocks = some grown) :
    (∃ last : List Block, (∀ b ∈ last, b ∈ all) ∧
        Tracks (last.map (Block.head key.length)) grown) ∧
      ∀ opened, (blocks ≠ [] →
          leavesOpen opened (textOf (spellingAround key) opened nodes) = false) →
        textOf (spellingAround key) opened grown =
          textOf (spellingAround key) opened nodes ++ blocks.flatMap Block.text := by
  induction size : blocks.length using Nat.strong_induction_on
    generalizing key array nodes grown done blocks with
  | h count ih =>
      cases blocks with
      | nil =>
          rw [addBlocks?] at added
          cases added
          refine ⟨⟨done, fun b member => stand.among b (List.mem_append_left _ member), tracks⟩,
            fun opened _ => ?_⟩
          simp
      | cons b rest =>
          obtain ⟨body, next, inner, joined, later⟩ := exists_of_addBlocks?_cons added
          have whole : rest.takeWhile (·.isBelow b) ++ rest.dropWhile (·.isBelow b) = rest :=
            List.takeWhile_append_dropWhile
          have within : ∀ c ∈ rest.takeWhile (·.isBelow b), c.isBelow b = true :=
            fun c member => List.mem_takeWhile_imp (p := fun c : Block => c.isBelow b) member
          have apart : ∀ c ∈ (rest.dropWhile (·.isBelow b)).head?, c.isBelow b = false := by
            intro c leads
            have stopped := List.head?_dropWhile_not (·.isBelow b) rest
            rw [Option.mem_def.mp leads] at stopped
            simpa using stopped
          generalize rest.takeWhile (·.isBelow b) = below at *
          generalize rest.dropWhile (·.isBelow b) = others at *
          subst whole
          have plain := kept.plain b (stand.among b (by simp))
          have title : spellingAround b.key = some (spellingOf b.key) := by
            simp [spellingAround, plain.shown]
          obtain ⟨-, inside⟩ := ih below.length (by simp at size; omega) (stand.inner kept within)
            (recalls.inner stand) (.plain plain.lines) shut.inner inner rfl
          have lines : textOf (some (spellingOf b.key)) (leavesOpen false b.header) body =
              textOf none false b.nodes ++ below.flatMap Block.text := by
            rw [← title, inside, plain.same]
            intro filled
            rw [plain.same, ← leavesOpen_append]
            exact shut.first (by simp [filled])
          obtain ⟨tracks, grew⟩ := adds_of_join? kept stand recalls tracks joined
          rw [lines, ← List.append_assoc] at grew
          change ∀ opened, _ → _ = _ ++ (b :: below).flatMap Block.text at grew
          obtain ⟨last, grown⟩ := ih others.length (by simp at size; omega)
            (stand.next kept within apart) (recalls.next stand) tracks shut.next later rfl
          refine ⟨last, fun opened closed => ?_⟩
          have closed := closed (List.cons_ne_nil _ _)
          rw [grown opened, grew opened closed]
          · simp
          · intro filled
            rw [grew opened closed, leavesOpen_append, closed, shut.before filled]

end Added

end CommandDocs.Toml.Layout

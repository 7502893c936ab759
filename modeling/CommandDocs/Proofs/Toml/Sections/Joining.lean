import CommandDocs.Proofs.Toml.Merge.Joining
import CommandDocs.Proofs.Toml.Sections.Order
import CommandDocs.Proofs.Toml.Sections.Texts

/-!
# Tables that are joined in order

A table either follows the nodes that are there or goes on with the last one of them, when its
header comes in order.  Its text then follows theirs.
-/

namespace CommandDocs.Toml.Layout

/-! ## Nodes of headers -/

/-- Whether nodes come from some headers: each header has added a node, or has gone on with the last
one.  Nodes of lines may stand before. -/
inductive Tracks : List Head → List Node → Prop where
  | plain {nodes : List Node} (plain : ∀ node ∈ nodes, node.opensLine = false) : Tracks [] nodes
  | header {heads : List Head} {nodes : List Node} (tracks : Tracks heads nodes) (part : Part)
      (indent title tail : List Char) (body : List Node) :
      Tracks (heads ++ [⟨[part], false⟩])
        (nodes ++ [.table part indent (.header title tail) body])
  | array {heads : List Head} {nodes : List Node} (tracks : Tracks heads nodes) (part : Part)
      (items : List Node) : Tracks (heads ++ [⟨[part], true⟩]) (nodes ++ [.tables part items])
  | item {heads : List Head} {nodes : List Node} {part : Part} {items : List Node}
      (tracks : Tracks heads (nodes ++ [.tables part items])) (more : List Node) :
      Tracks (heads ++ [⟨[part], true⟩]) (nodes ++ [.tables part (items ++ more)])
  | implied {heads tails : List Head} {nodes within : List Node} (tracks : Tracks heads nodes)
      (part : Part) {margin : List Char} (flush : spacesOf margin = []) (filled : tails ≠ [])
      (inner : Tracks tails within) :
      Tracks (heads ++ tails.map (Head.under part))
        (nodes ++ [.table part margin .implied within])

/-- Whether a header opens a node or something in it. -/
structure Head.Opens (head : Head) (node : Node) : Prop where
  named : node.name? = head.path.head?
  headed : node.opensLine = true
  table : node.isTable = false → head.array = true ∧ head.path.length = 1

namespace Tracks

variable {heads : List Head} {nodes front back : List Node} {node : Node}

theorem parts_ne_nil (tracks : Tracks heads nodes) : ∀ head ∈ heads, head.parts ≠ [] := by
  induction tracks with
  | plain => simp
  | header _ _ _ _ _ _ ih => exact List.forall_mem_append.mpr ⟨ih, by simp⟩
  | array _ _ _ ih => exact List.forall_mem_append.mpr ⟨ih, by simp⟩
  | item _ _ ih => exact List.forall_mem_append.mpr ⟨ih, by simp⟩
  | implied _ _ _ _ _ ih _ =>
      exact List.forall_mem_append.mpr ⟨ih, by simp [Head.under]⟩

/-- The last node, when a header has added or grown it. -/
theorem split_last {late : List Head} {last : Node} (some : ∃ head ∈ late, head.Opens last)
    (whole : front ++ node :: back = nodes ++ [last])
    (old : ∀ others, front ++ node :: others = nodes → ∃ early behind, heads = early ++ behind ∧
      (∃ head ∈ early, head.Opens node) ∧ ∀ other ∈ others, ∃ head ∈ behind, head.Opens other) :
    ∃ early behind, heads ++ late = early ++ behind ∧ (∃ head ∈ early, head.Opens node) ∧
      ∀ other ∈ back, ∃ head ∈ behind, head.Opens other := by
  rcases List.eq_nil_or_concat back with rfl | ⟨others, final, rfl⟩
  · obtain ⟨rfl, same⟩ := List.append_inj' whole rfl
    cases same
    obtain ⟨head, member, own⟩ := some
    exact ⟨heads ++ late, [], by simp, ⟨head, List.mem_append_right _ member, own⟩, by simp⟩
  · rw [List.concat_eq_append, ← List.cons_append, ← List.append_assoc] at whole
    obtain ⟨rfl, same⟩ := List.append_inj' whole rfl
    cases same
    obtain ⟨early, behind, rfl, first, rest⟩ := old others rfl
    refine ⟨early, behind ++ late, by simp, first, ?_⟩
    rw [List.concat_eq_append, List.forall_mem_append]
    refine ⟨fun other member => ?_, ?_⟩
    · obtain ⟨head, among, own⟩ := rest other member
      exact ⟨head, List.mem_append_left _ among, own⟩
    · obtain ⟨head, among, own⟩ := some
      exact List.forall_mem_singleton.mpr ⟨head, List.mem_append_right _ among, own⟩

/-- The headers of a node come before those of the nodes after it. -/
theorem split (tracks : Tracks heads nodes) (whole : front ++ node :: back = nodes)
    (opens : node.opensLine = true) :
    ∃ early behind, heads = early ++ behind ∧ (∃ head ∈ early, head.Opens node) ∧
      ∀ other ∈ back, ∃ head ∈ behind, head.Opens other := by
  induction tracks generalizing front node back with
  | plain plain =>
      have closed := plain node (by simp [← whole])
      rw [opens] at closed
      cases closed
  | header tracks part indent title tail body ih =>
      refine split_last ⟨_, List.mem_singleton_self _, rfl, rfl, fun other => ?_⟩ whole
        fun others same => ih same opens
      cases other
  | array tracks part items ih =>
      exact split_last ⟨_, List.mem_singleton_self _, rfl, rfl, fun _ => ⟨rfl, rfl⟩⟩ whole
        fun others same => ih same opens
  | @item heads nodes part items tracks more ih =>
      refine split_last ⟨_, List.mem_singleton_self _, rfl, rfl, fun _ => ⟨rfl, rfl⟩⟩ whole
        fun others same => ?_
      have grown : front ++ node :: (others ++ [.tables part items]) =
          nodes ++ [.tables part items] := by
        simp [← same]
      obtain ⟨early, behind, rfl, first, rest⟩ := ih grown opens
      exact ⟨early, behind, rfl, first, (List.forall_mem_append.mp rest).1⟩
  | @implied heads tails nodes within tracks part margin flush filled inner ih _ =>
      obtain ⟨tail, member⟩ := List.exists_mem_of_ne_nil tails filled
      refine split_last ⟨_, List.mem_map_of_mem member, rfl, rfl, fun other => ?_⟩ whole
        fun others same => ih same opens
      cases other

/-- The headers of a last table without a header of its own. -/
theorem of_implied {part : Part} {margin : List Char} {within : List Node}
    (tracks : Tracks heads (front ++ [.table part margin .implied within])) :
    ∃ early tails, heads = early ++ tails.map (Head.under part) ∧ Tracks early front ∧
      spacesOf margin = [] ∧ tails ≠ [] ∧ Tracks tails within := by
  generalize whole : front ++ [.table part margin .implied within] = nodes at tracks
  cases tracks with
  | plain plain =>
      have closed := plain (.table part margin .implied within) (by simp [← whole])
      cases closed
  | header | array | item => cases (List.append_inj' whole rfl).2
  | implied tracks part flush filled inner =>
      obtain ⟨rfl, same⟩ := List.append_inj' whole rfl
      cases same
      exact ⟨_, _, rfl, tracks, flush, filled, inner⟩

/-- The last header is that of the last array of tables. -/
theorem of_tables {part : Part} {items : List Node}
    (tracks : Tracks heads (front ++ [.tables part items])) :
    ∃ early, heads = early ++ [⟨[part], true⟩] := by
  generalize whole : front ++ [.tables part items] = nodes at tracks
  cases tracks with
  | plain plain =>
      have closed := plain (.tables part items) (by simp [← whole])
      cases closed
  | header | implied => cases (List.append_inj' whole rfl).2
  | array tracks | item tracks =>
      cases (List.append_inj' whole rfl).2
      exact ⟨_, rfl⟩

/-- A table of its own. -/
theorem fresh {b : Block} {body : List Node} {indent : List Char} {parts : List Part}
    (tracks : Tracks heads nodes) (shown : parts ≠ [])
    (flush : parts.length ≤ 1 ∨ spacesOf indent = [])
    (deeper : parts.length ≤ 2 ∨ spacesOf b.indent = []) :
    Tracks (heads ++ [⟨parts, b.array⟩]) (nodes ++ [headedNode b body indent parts]) := by
  induction parts generalizing heads nodes indent with
  | nil => exact absurd rfl shown
  | cons part rest ih =>
      cases rest with
      | nil =>
          rw [headedNode]
          cases array : b.array with
          | true => exact .array tracks part _
          | false => exact .header tracks part _ _ _ _
      | cons next rest =>
          have inner : Tracks [⟨next :: rest, b.array⟩]
              [headedNode b body b.indent (next :: rest)] :=
            ih (.plain (List.forall_mem_nil _)) (List.cons_ne_nil _ _)
              (deeper.imp_left Nat.le_of_succ_le_succ) (deeper.imp_left Nat.le_of_succ_le)
          have margin : spacesOf indent = [] := flush.resolve_left (by simp)
          exact .implied tracks part margin (List.cons_ne_nil _ _) inner

end Tracks

/-! ## Joining -/

/-- Whether two keys spell the parts alike that lead to the same tables. -/
def Alike (key other : List Part) : Prop :=
  ∀ count, (key.take count).map Part.name = (other.take count).map Part.name →
    key.take count = other.take count

theorem Alike.eq_of_name {part other : Part} {rest others : List Part}
    (alike : Alike (part :: rest) (other :: others)) (same : part.name = other.name) :
    part = other := by
  have first := alike 1 (by simp [same])
  simpa using first

theorem Alike.tail {part : Part} {rest others : List Part}
    (alike : Alike (part :: rest) (part :: others)) : Alike rest others := by
  intro count same
  have longer := alike (count + 1) (by simp [same])
  simpa using longer

/-- Whether a header comes in order after some headers of the same table. -/
structure Comes (heads : List Head) (head : Head) : Prop where
  ordered : InOrder (heads ++ [head])
  apart : ∀ last ∈ heads.getLast?, ¬Encloses last.path head.path
  alike : ∀ other ∈ heads, Alike other.parts head.parts

section Named

variable {name : List Nat} {nodes front back : List Node} {found : Node}

theorem lastNamed?_ne_none {node : Node} (member : node ∈ nodes) (own : node.name? = some name) :
    lastNamed? name nodes ≠ none := by
  induction nodes with
  | nil => cases member
  | cons first rest ih =>
      rw [lastNamed?]
      cases later : lastNamed? name rest with
      | some found => simp
      | none =>
          rcases List.mem_cons.mp member with rfl | inside
          · simp [own]
          · exact absurd later (ih inside)

theorem lastNamed?_eq_some (last : lastNamed? name nodes = some (front, found, back)) :
    found.name? = some name ∧ ∀ other ∈ back, other.name? ≠ some name := by
  induction nodes generalizing front with
  | nil => cases last
  | cons node rest ih =>
      rw [lastNamed?] at last
      split at last
      · rename_i inner
        cases last
        exact ih inner
      · rename_i none
        split at last
        · rename_i same
          cases last
          refine ⟨by simpa using same, fun other member named => ?_⟩
          exact absurd none (lastNamed?_ne_none member named)
        · cases last

theorem lastTable?_append (front : List Node) (tables : ∀ other ∈ back, other.isTable = true)
    (filled : back ≠ []) : ∃ other ∈ back, lastTable? (front ++ back) = other.name? := by
  obtain ⟨others, final, rfl⟩ := (List.eq_nil_or_concat back).resolve_left filled
  have table := tables final (by simp)
  exact ⟨final, by simp, by simp [lastTable?, table]⟩

end Named

section Order

variable {heads : List Head} {front back : List Node} {found : Node} {head : Head}
  {name : List Nat}

/-- Between a table that a header goes back to and this header stand tables only, and it is no
array. -/
theorem Comes.tables (comes : Comes heads head)
    (tracks : Tracks heads (front ++ found :: back)) (opens : found.opensLine = true)
    (own : found.name? = some name) (leads : head.path.head? = some name)
    (others : ∀ other ∈ back, other.name? ≠ some name) (filled : back ≠ []) :
    found.isTable = true ∧ ∀ other ∈ back, other.isTable = true := by
  obtain ⟨early, behind, rfl, ⟨first, member, starts⟩, rest⟩ := tracks.split rfl opens
  obtain ⟨before, between, rfl⟩ := List.append_of_mem member
  have ordered : InOrder (before ++ first :: ((between ++ behind) ++ [head])) := by
    simpa using comes.ordered
  have harmless := ordered.of_append_right.1 (between ++ behind) head [] rfl
  have leads' {other : Head} (heading : other.path.head? = some name) : [name] <+: other.path := by
    obtain ⟨tail, whole⟩ := List.head?_eq_some_iff.mp heading
    exact ⟨tail, whole.symm⟩
  have free : ∀ other ∈ between ++ behind, ¬Encloses other.path [name] := by
    rintro other among ⟨prefixed, different⟩
    have shown : other.path ≠ [] := by
      simpa [Head.path] using tracks.parts_ne_nil other (by
        rcases List.mem_append.mp among with inside | inside <;> simp [inside])
    refine different (prefixed.eq_of_length_le ?_)
    exact List.length_pos_iff.mpr shown
  have harmless := harmless [name] (List.cons_ne_nil _ _)
    (leads' (starts.named.symm.trans own)) (leads' leads) free
  have away {other : Node} (among : other ∈ back) :
      ∃ inner ∈ between ++ behind, inner.Opens other ∧ ¬[name] <+: inner.path := by
    obtain ⟨inner, inside, opened⟩ := rest other among
    refine ⟨inner, List.mem_append_right _ inside, opened, fun prefixed => ?_⟩
    obtain ⟨tail, whole⟩ := prefixed
    refine others other among ?_
    rw [opened.named, ← whole]
    rfl
  constructor
  · obtain ⟨other, among⟩ := List.exists_mem_of_ne_nil back filled
    obtain ⟨inner, inside, -, outside⟩ := away among
    refine Bool.not_eq_false _ |>.mp fun table => ?_
    obtain ⟨array, single⟩ := starts.table table
    refine (harmless inner inside outside).1 array ?_
    obtain ⟨tail, whole⟩ := leads' (starts.named.symm.trans own)
    rw [← whole] at single ⊢
    simpa using single
  · intro other among
    obtain ⟨inner, inside, opened, outside⟩ := away among
    refine Bool.not_eq_false _ |>.mp fun table => ?_
    obtain ⟨array, single⟩ := opened.table table
    refine (harmless inner inside outside).2 array ?_
    obtain ⟨only, whole⟩ := List.length_eq_one_iff.mp single
    rw [whole]
    rfl

/-- A table that a header goes back to, and that has the name of the last table, is the last
node. -/
theorem Comes.eq_nil_of_latest (comes : Comes heads head)
    (tracks : Tracks heads (front ++ found :: back)) (opens : found.opensLine = true)
    (own : found.name? = some name) (leads : head.path.head? = some name)
    (others : ∀ other ∈ back, other.name? ≠ some name)
    (latest : lastTable? (front ++ found :: back) = some name) : back = [] := by
  by_contra filled
  obtain ⟨-, tables⟩ := comes.tables tracks opens own leads others filled
  obtain ⟨other, member, final⟩ := lastTable?_append (front ++ [found]) tables filled
  rw [List.append_assoc, List.singleton_append, latest] at final
  exact others other member final.symm

/-- A header in order does not go back into an array of tables from outside of its last item. -/
theorem Comes.not_tables {part first : Part} {items : List Node} {nodes : List Node}
    (comes : Comes heads (head.under part)) (own : head.parts ≠ []) (tracks : Tracks heads nodes)
    (last : lastNamed? part.name nodes = some (front, .tables first items, back)) : False := by
  obtain rfl := eq_append_of_lastNamed? last
  obtain ⟨same, others⟩ := lastNamed?_eq_some last
  by_cases filled : back = []
  · subst filled
    obtain ⟨early, rfl⟩ := tracks.of_tables
    have alike := comes.alike ⟨[first], true⟩ (by simp)
    obtain rfl := alike.eq_of_name (Option.some.inj same)
    refine comes.apart ⟨[first], true⟩ (by simp) ?_
    simp [Encloses, Head.path, Head.under, own]
  · have impossible := (comes.tables tracks rfl same rfl others filled).1
    cases impossible

end Order

/-- What joining the node of a header in order makes of the nodes that are there: the text of the
node follows theirs. -/
structure Adds (heads : List Head) (nodes : List Node) (head : Head) (node : Node)
    (grown : List Node) : Prop where
  tracks : Tracks (heads ++ [head]) grown
  text : ∀ outer opened, leavesOpen opened (textOf outer opened nodes) = false →
    textOf outer opened grown = textOf outer opened nodes ++ node.text outer

theorem Adds.apart {heads : List Head} {nodes : List Node} {head : Head} {node : Node}
    (tracks : Tracks (heads ++ [head]) (nodes ++ [node])) :
    Adds heads nodes head node (nodes ++ [node]) :=
  ⟨tracks, fun _ _ shut => textOf_concat shut⟩

section Join

variable {fuel : Nat} {site : Site} {heads : List Head} {nodes grown within items : List Node}
  {part : Part} {indent : List Char}

theorem join_tables (tracks : Tracks heads nodes) (comes : Comes heads ⟨[part], true⟩)
    (joined : joinWith? fuel site nodes (.tables part items) = some grown) :
    Adds heads nodes ⟨[part], true⟩ (.tables part items) grown := by
  cases fuel with
  | zero =>
      rw [joinWith?] at joined
      cases joined
  | succ fuel =>
      rw [joinWith?.eq_def] at joined
      dsimp only at joined
      split at joined
      · cases joined
        exact .apart (tracks.array part items)
      · rename_i front first old back last
        cases joined
        obtain rfl := eq_append_of_lastNamed? last
        obtain ⟨own, others⟩ := lastNamed?_eq_some last
        by_cases filled : back = []
        · subst filled
          obtain ⟨early, rfl⟩ := tracks.of_tables
          have alike := comes.alike ⟨[first], true⟩ (by simp)
          obtain rfl := alike.eq_of_name (Option.some.inj own)
          exact ⟨tracks.item items, fun outer opened _ =>
            textOf_grown rfl (text_tables_append first old items)⟩
        · have impossible := (comes.tables tracks rfl own rfl others filled).1
          cases impossible
      · cases joined

theorem eq_of_agreeing {c : Bool} {fuel : Nat} {name : List Nat}
    (joined : (if c then agreeing? fuel name nodes else some nodes) = some grown) :
    grown = nodes := by
  split at joined
  · exact agreeing?_eq_some joined
  · exact (Option.some.inj joined).symm

/-- A table with its own header stands apart. -/
theorem join_header {title tail : List Char} (tracks : Tracks heads nodes)
    (joined : joinWith? fuel site nodes (.table part indent (.header title tail) within) =
      some grown) :
    Adds heads nodes ⟨[part], false⟩ (.table part indent (.header title tail) within) grown := by
  have apart : Adds heads nodes ⟨[part], false⟩ (.table part indent (.header title tail) within)
      (nodes ++ [.table part indent (.header title tail) within]) :=
    .apart (tracks.header part indent title tail within)
  cases fuel with
  | zero =>
      rw [joinWith?] at joined
      cases joined
  | succ fuel =>
      rw [joinWith?.eq_def] at joined
      simp only [Origin.isItem, Origin.isHeader, Bool.true_and, Bool.true_or, Bool.false_eq_true,
        if_false, if_true] at joined
      split at joined
      · cases joined
        exact apart
      · split at joined
        · cases joined
        · cases eq_of_agreeing joined
          exact apart
      · cases joined
      · cases joined

/-- A header comes in order within a table that it goes back to. -/
theorem Comes.of_under {early tails : List Head} {head : Head}
    (comes : Comes (early ++ tails.map (Head.under part)) (head.under part))
    (shown : ∀ tail ∈ tails, tail.parts ≠ []) (own : head.parts ≠ []) : Comes tails head where
  ordered := by
    have whole : InOrder (early ++ (tails ++ [head]).map (Head.under part)) := by
      simpa using comes.ordered
    exact whole.of_append_right.of_under
      (List.forall_mem_append.mpr ⟨shown, List.forall_mem_singleton.mpr own⟩)
  apart last final := by
    have outer := comes.apart (last.under part) (by
      rw [List.getLast?_append, List.getLast?_map, Option.mem_def.mp final]
      rfl)
    rwa [Head.path_under, Head.path_under, encloses_cons] at outer
  alike other member := Alike.tail (comes.alike (other.under part)
    (List.mem_append_right early (List.mem_map_of_mem member)))

theorem Adds.under {early tails : List Head} {head : Head} {inner : Node} {margin : List Char}
    {merged : List Node} (adds : Adds tails within head inner merged) (tracks : Tracks early nodes)
    (flush : spacesOf margin = []) (bare : indent ≠ ['\n']) :
    Adds (early ++ tails.map (Head.under part)) (nodes ++ [.table part margin .implied within])
      (head.under part) (.table part indent .implied [inner])
      (nodes ++ [.table part margin .implied merged]) where
  tracks := by
    have whole := tracks.implied part flush (by simp) adds.tracks
    simpa using whole
  text outer opened shut := by
    refine textOf_grown rfl ?_
    rw [leavesOpen_last rfl] at shut
    have closed : leavesOpen false (textOf (some (below outer part)) false within) = false := by
      simp only [Node.text] at shut
      split at shut
      · rename_i margin
        rwa [eq_of_beq margin, List.singleton_append, leavesOpen_cons] at shut
      · exact shut
    simp [Node.text, adds.text _ _ closed, bare, textOf]

/-- A single node joins those of a table that is not indented. -/
theorem exists_joinWith?_of_joinAll? {node : Node}
    (joined : joinAll? fuel [] nodes [node] = some grown) :
    ∃ less, joinWith? less .top nodes node = some grown := by
  cases fuel with
  | zero =>
      rw [joinAll?] at joined
      cases joined
  | succ fuel =>
      rw [joinAll?, List.foldlM_cons] at joined
      obtain ⟨next, own, last⟩ := Option.bind_eq_some_iff.mp joined
      cases last
      refine ⟨fuel, ?_⟩
      split at own
      · rename_i met _
        rw [met, ← own]
        rfl
      · exact own

/-- What a table without a header of its own leads to joins what stands in the last node. -/
theorem Adds.inside {head : Head} {inner : Node} {first : Part} {margin : List Char}
    {merged : List Node} (tracks : Tracks heads (nodes ++ [.table first margin .implied within]))
    (comes : Comes heads (head.under part)) (own : head.parts ≠ [])
    (same : first.name = part.name) (bare : indent ≠ ['\n'])
    (deeper : ∀ {fuel tails within merged}, Tracks tails within → Comes tails head →
      joinWith? fuel .top within inner = some merged → Adds tails within head inner merged)
    (joined : joinAll? fuel (spacesOf margin) within [inner] = some merged) :
    Adds heads (nodes ++ [.table first margin .implied within]) (head.under part)
      (.table part indent .implied [inner]) (nodes ++ [.table first margin .implied merged]) := by
  obtain ⟨early, tails, rfl, before, flush, filled, rest⟩ := tracks.of_implied
  obtain ⟨tail, member⟩ := List.exists_mem_of_ne_nil tails filled
  have alike := comes.alike (tail.under first)
    (List.mem_append_right early (List.mem_map_of_mem member))
  obtain rfl := alike.eq_of_name same
  rw [flush] at joined
  obtain ⟨less, inner⟩ := exists_joinWith?_of_joinAll? joined
  exact (deeper rest (comes.of_under rest.parts_ne_nil own) inner).under before flush bare

/-- A table without a header of its own stands apart or joins the last node, if what it leads to
joins what stands there. -/
theorem join_implied {head : Head} {inner : Node} (tracks : Tracks heads nodes)
    (comes : Comes heads (head.under part)) (own : head.parts ≠ [])
    (bare : indent ≠ ['\n'])
    (apart : Tracks (heads ++ [head.under part]) (nodes ++ [.table part indent .implied [inner]]))
    (deeper : ∀ {fuel tails within merged}, Tracks tails within → Comes tails head →
      joinWith? fuel .top within inner = some merged → Adds tails within head inner merged)
    (joined : joinWith? fuel site nodes (.table part indent .implied [inner]) = some grown) :
    Adds heads nodes (head.under part) (.table part indent .implied [inner]) grown := by
  have apart : Adds heads nodes (head.under part) (.table part indent .implied [inner])
      (nodes ++ [.table part indent .implied [inner]]) := .apart apart
  cases fuel with
  | zero =>
      rw [joinWith?] at joined
      cases joined
  | succ fuel =>
      rw [joinWith?.eq_def] at joined
      simp only [show Origin.implied.isItem = false from rfl,
        show Origin.implied.isHeader = false from rfl, Bool.false_and, Bool.false_or,
        Bool.false_eq_true, if_false] at joined
      split at joined
      · cases joined
        exact apart
      · rename_i front first margin old within back last
        obtain rfl := eq_append_of_lastNamed? last
        obtain ⟨same, others⟩ := lastNamed?_eq_some last
        split at joined
        · cases eq_of_agreeing joined
          exact apart
        · rename_i headless
          split at joined
          · split at joined
            · cases joined
              exact apart
            · cases agreeing?_eq_some joined
              exact apart
          · rename_i met
            obtain ⟨merged, inside, together⟩ := Option.bind_eq_some_iff.mp joined
            cases eq_of_agreeing together
            simp only [Bool.or_eq_true, beq_iff_eq, bne_iff_ne, not_or, not_not] at met
            obtain ⟨⟨-, plain⟩, latest⟩ := met
            obtain rfl : old = .implied := by cases old <;> simp_all [Origin.isHeader]
            obtain rfl := comes.eq_nil_of_latest tracks rfl same rfl others latest
            exact .inside tracks comes own (Option.some.inj same) bare deeper inside
      · rename_i front first items back last
        exact (comes.not_tables own tracks last).elim
      · cases joined

end Join

/-- The table of a header in order follows the nodes that are there, or goes on with the last
one. -/
theorem join_headedNode {b : Block} {body : List Node} {parts : List Part} {indent : List Char}
    {heads : List Head} {nodes grown : List Node} {fuel : Nat} {site : Site}
    (tracks : Tracks heads nodes) (comes : Comes heads ⟨parts, b.array⟩) (shown : parts ≠ [])
    (flush : parts.length ≤ 1 ∨ spacesOf indent = [])
    (deeper : parts.length ≤ 2 ∨ spacesOf b.indent = [])
    (bare : indent ≠ ['\n']) (inner : b.indent ≠ ['\n'])
    (joined : joinWith? fuel site nodes (headedNode b body indent parts) = some grown) :
    Adds heads nodes ⟨parts, b.array⟩ (headedNode b body indent parts) grown := by
  induction parts generalizing heads nodes grown indent fuel site with
  | nil => exact absurd rfl shown
  | cons part rest ih =>
      cases rest with
      | nil =>
          rw [headedNode] at joined ⊢
          cases array : b.array with
          | true =>
              rw [array] at joined comes
              exact join_tables tracks comes joined
          | false =>
              rw [array] at joined
              exact join_header tracks joined
      | cons next rest =>
          have apart : Tracks (heads ++ [⟨part :: next :: rest, b.array⟩])
              (nodes ++ [headedNode b body indent (part :: next :: rest)]) :=
            tracks.fresh shown flush deeper
          have short : (next :: rest).length ≤ 1 ∨ spacesOf b.indent = [] :=
            deeper.imp_left Nat.le_of_succ_le_succ
          have shorter : (next :: rest).length ≤ 2 ∨ spacesOf b.indent = [] :=
            deeper.imp_left Nat.le_of_succ_le
          have own : (⟨next :: rest, b.array⟩ : Head).parts ≠ [] := List.cons_ne_nil _ _
          have under : Comes heads (Head.under part ⟨next :: rest, b.array⟩) := comes
          refine join_implied tracks under own bare apart (fun tracks comes joined => ?_) joined
          exact ih tracks comes own short shorter inner joined

end CommandDocs.Toml.Layout

import CommandDocs.Proofs.Toml.Tables
import CommandDocs.Toml.Document

/-!
# Keys that other items leave alone

An item works on the key at the top of the document that its path opens with, and on no other.  A
key that holds a value of its own is closed to every other item, so that its value can be replaced,
or left out, without a change for the rest of the document.
-/

namespace CommandDocs.Toml

/-! ## Changes at one key -/

/-- A change of a table that replaces the value of one key, and looks at no other. -/
def ActsAt (key : String) (change : Table → Option Table) : Prop :=
  ∃ next : Option Value → Option Value,
    ∀ t, change t = (next (find? key t)).map fun value => assign key value t

theorem actsAt_define? (key : String) (value : Value) : ActsAt key (define? key value) := by
  refine ⟨fun old => if old.isSome then none else some value, fun t => ?_⟩
  unfold define?
  cases find? key t <;> rfl

/-- The array of a key with one more table. -/
def extended? : Option Value → Option Value
  | none => some (.array [.table []])
  | some (.array items) => some (.array (items ++ [.table []]))
  | some _ => none

theorem actsAt_extend? (key : String) : ActsAt key (extend? key) := by
  refine ⟨extended?, fun t => ?_⟩
  unfold extend? extended?
  cases find? key t with
  | none => rfl
  | some value => cases value <;> rfl

def changedAt? (open? : Bool) (change : Table → Option Table) (path : List String) :
    Option Value → Option Value
  | none => (changeAt? open? change path []).map .table
  | some (.table entries) => (changeAt? open? change path entries).map .table
  | some (.array items) =>
      if open? then (changeLast? (changeAt? open? change path) items).map .array else none
  | some _ => none

theorem actsAt_changeAt? (open? : Bool) (change : Table → Option Table) (key : String)
    (path : List String) : ActsAt key (changeAt? open? change (key :: path)) := by
  refine ⟨changedAt? open? change path, fun t => ?_⟩
  rw [changeAt?]
  unfold changedAt?
  cases find? key t with
  | none => simp [Function.comp_def]
  | some value =>
      cases value with
      | table entries => simp [Function.comp_def]
      | array items => cases open? <;> simp [Function.comp_def]
      | _ => rfl

section ActsAt

variable {key other : String} {change : Table → Option Table} (acts : ActsAt key change)
  {t u : Table}
include acts

theorem ActsAt.find?_of_ne (changed : change t = some u) (apart : other ≠ key) :
    find? other u = find? other t := by
  obtain ⟨next, same⟩ := acts
  rw [same, Option.map_eq_some_iff] at changed
  obtain ⟨value, -, rfl⟩ := changed
  exact find?_assign_of_ne (Ne.symm apart) value t

theorem ActsAt.find?_ne_none (changed : change t = some u) : find? key u ≠ none := by
  obtain ⟨next, same⟩ := acts
  rw [same, Option.map_eq_some_iff] at changed
  obtain ⟨value, -, rfl⟩ := changed
  rw [find?_assign_self]
  exact Option.some_ne_none value

/-- Tables with one value for the key are changed alike. -/
theorem ActsAt.exists_of_find?_eq {s : Table} (same : find? key t = find? key s)
    (changed : change t = some u) : ∃ v, change s = some v ∧ find? key v = find? key u := by
  obtain ⟨next, form⟩ := acts
  rw [form, Option.map_eq_some_iff] at changed
  obtain ⟨value, found, rfl⟩ := changed
  refine ⟨assign key value s, ?_, ?_⟩
  · rw [form, ← same, found]
    rfl
  · rw [find?_assign_self, find?_assign_self]

theorem ActsAt.nodup_keysOf (changed : change t = some u) (distinct : (keysOf t).Nodup) :
    (keysOf u).Nodup := by
  obtain ⟨next, same⟩ := acts
  rw [same, Option.map_eq_some_iff] at changed
  obtain ⟨value, -, rfl⟩ := changed
  exact nodup_keysOf_assign value distinct

end ActsAt

/-! ## Items and the keys they work on -/

theorem splitLast_append (key : List String) (shown : key ≠ []) :
    (splitLast key).1 ++ [(splitLast key).2] = key := by
  induction key with
  | nil => exact absurd rfl shown
  | cons part rest ih =>
      cases rest with
      | nil => rfl
      | cons next rest =>
          have later := ih (List.cons_ne_nil next rest)
          rw [splitLast]
          · dsimp only
            rw [List.cons_append, later]
          · exact List.cons_ne_nil next rest

def Item.key : Item → List String
  | .entry key _ => key
  | .header _ key => key

def Item.isEntry : Item → Bool
  | .entry _ _ => true
  | .header _ _ => false

/-- The path of an item, given that of the table that is open. -/
def Item.path (here : List String) : Item → List String
  | .entry key _ => here ++ key
  | .header _ key => key

def Item.opens (here : List String) : Item → List String
  | .entry _ _ => here
  | .header _ key => key

/-- What an item does to the table at the top. -/
def Item.change (here : List String) : Item → Table → Option Table
  | .entry key value =>
      changeAt? true (define? (splitLast key).2 value) (here ++ (splitLast key).1)
  | .header false key => changeAt? true some key
  | .header true key => changeAt? true (extend? (splitLast key).2) (splitLast key).1

namespace Content

/-- Whether an item is kept out by what was said before. -/
def bars (c : Content) : Item → Bool
  | .entry key _ =>
      (between c.here key).any c.explicit.contains ||
        isBelow c.closed (c.here ++ (splitLast key).1)
  | .header false key => (c.pending ++ c.explicit).contains key || isBelow c.closed key
  | .header true key => isBelow c.closed key

/-- The content after an item, given the table at the top. -/
def after (c : Content) (item : Item) (root : Table) : Content :=
  match item with
  | .entry key value =>
      { c with
        root
        pending := between c.here key ++ c.pending
        closed := if Inline.isCollection value then (c.here ++ key) :: c.closed else c.closed }
  | .header false key =>
      { c with root, here := key, explicit := key :: (c.pending ++ c.explicit), pending := [] }
  | .header true key =>
      { root, here := key, pending := []
        explicit := key :: (c.pending ++ c.explicit).filter fun p => !key.isPrefixOf p
        closed := c.closed.filter fun p => !key.isPrefixOf p }

theorem add?_eq (c : Content) (item : Item) :
    c.add? item = if c.bars item then none else (item.change c.here c.root).map (c.after item) := by
  cases item with
  | entry key value => rfl
  | header array key => cases array <;> rfl

theorem add?_eq_some_iff {c d : Content} {item : Item} :
    c.add? item = some d ↔
      c.bars item = false ∧
        ∃ root, item.change c.here c.root = some root ∧ c.after item root = d := by
  rw [add?_eq]
  cases c.bars item <;> simp

theorem here_after (c : Content) (item : Item) (root : Table) :
    (c.after item root).here = item.opens c.here := by
  cases item with
  | entry key value => rfl
  | header array key => cases array <;> rfl

theorem root_after (c : Content) (item : Item) (root : Table) :
    (c.after item root).root = root := by
  cases item with
  | entry key value => rfl
  | header array key => cases array <;> rfl

end Content

/-- An item works on the key that its path opens with. -/
theorem Item.actsAt_change {item : Item} {here : List String} {top : String}
    (shown : item.key ≠ []) (opens : (item.path here).head? = some top) :
    ActsAt top (item.change here) := by
  have led {path : List String} {last : String} {change : Table → Option Table}
      (acts : ActsAt last change) (first : (path ++ [last]).head? = some top) :
      ActsAt top (changeAt? true change path) := by
    cases path with
    | nil =>
        cases first
        exact acts
    | cons part path =>
        cases first
        exact actsAt_changeAt? true change _ path
  cases item with
  | entry key value =>
      refine led (actsAt_define? _ value) ?_
      rwa [List.append_assoc, splitLast_append key shown]
  | header array key =>
      cases array with
      | false =>
          cases key with
          | nil => exact absurd rfl shown
          | cons part path =>
              cases opens
              exact actsAt_changeAt? true some _ path
      | true =>
          refine led (actsAt_extend? _) ?_
          rwa [splitLast_append key shown]

/-! ## Contents that agree but for one key -/

/-- Two contents that agree but for the value of one key at the top. -/
structure Content.Agrees (name : String) (c d : Content) : Prop where
  here : c.here = d.here
  explicit : c.explicit = d.explicit
  pending : c.pending = d.pending
  closed : ∀ path, path ≠ [name] → (path ∈ c.closed ↔ path ∈ d.closed)
  root : ∀ key, key ≠ name → find? key c.root = find? key d.root

namespace Content

variable {name : String} {c d r : Content} {item : Item}

theorem Agrees.symm (agrees : Agrees name c d) : Agrees name d c where
  here := agrees.here.symm
  explicit := agrees.explicit.symm
  pending := agrees.pending.symm
  closed path apart := (agrees.closed path apart).symm
  root key apart := (agrees.root key apart).symm

theorem isBelow_eq_true_iff {paths : List (List String)} {path : List String} :
    isBelow paths path = true ↔ ∃ p ∈ paths, p <+: path := by
  simp [isBelow, List.any_eq_true]

theorem Agrees.isBelow_eq (agrees : Agrees name c d) {path : List String}
    (apart : path.head? ≠ some name) : isBelow c.closed path = isBelow d.closed path := by
  rw [Bool.eq_iff_iff, isBelow_eq_true_iff, isBelow_eq_true_iff]
  refine exists_congr fun p => and_congr_left fun ⟨rest, within⟩ => agrees.closed p ?_
  rintro rfl
  exact apart (by rw [← within]; rfl)

theorem head?_parent_ne {here key : List String} (shown : key ≠ [])
    (apart : (here ++ key).head? ≠ some name) :
    (here ++ (splitLast key).1).head? ≠ some name := by
  intro opens
  refine apart ?_
  rw [← splitLast_append key shown, ← List.append_assoc, List.head?_append, opens]
  rfl

theorem Agrees.bars_eq (agrees : Agrees name c d) (shown : item.key ≠ [])
    (apart : (item.path c.here).head? ≠ some name) : c.bars item = d.bars item := by
  cases item with
  | entry key value =>
      have below : isBelow c.closed (c.here ++ (splitLast key).1) =
          isBelow d.closed (c.here ++ (splitLast key).1) :=
        agrees.isBelow_eq (head?_parent_ne shown apart)
      simp only [bars]
      rw [below, agrees.here, agrees.explicit]
  | header array key =>
      have below : isBelow c.closed key = isBelow d.closed key := agrees.isBelow_eq apart
      cases array <;> simp only [bars, below, agrees.explicit, agrees.pending]

theorem Agrees.after (agrees : Agrees name c d) {root other : Table}
    (same : ∀ key, key ≠ name → find? key root = find? key other) :
    Agrees name (c.after item root) (d.after item other) := by
  cases item with
  | entry key value =>
      refine ⟨agrees.here, agrees.explicit, ?_, fun path apart => ?_, same⟩
      · simp only [Content.after, agrees.here, agrees.pending]
      · have old := agrees.closed path apart
        simp only [Content.after, agrees.here]
        split
        · simp only [List.mem_cons, old]
        · exact old
  | header array key =>
      cases array with
      | false =>
          refine ⟨rfl, ?_, rfl, agrees.closed, same⟩
          simp only [Content.after, agrees.explicit, agrees.pending]
      | true =>
          refine ⟨rfl, ?_, rfl, fun path apart => ?_, same⟩
          · simp only [Content.after, agrees.explicit, agrees.pending]
          · simp only [Content.after, List.mem_filter, agrees.closed path apart]

theorem exists_head?_path (here : List String) (shown : item.key ≠ []) :
    ∃ top, (item.path here).head? = some top := by
  refine Option.isSome_iff_exists.mp ?_
  cases item <;> simp_all [Item.path, Item.key]

/-- An item that works on another key does the same to both. -/
theorem Agrees.exists_add? (agrees : Agrees name c d) (shown : item.key ≠ [])
    (apart : (item.path c.here).head? ≠ some name) (added : c.add? item = some r) :
    ∃ s, d.add? item = some s ∧ Agrees name r s ∧ find? name r.root = find? name c.root ∧
      find? name s.root = find? name d.root := by
  obtain ⟨free, root, changed, rfl⟩ := add?_eq_some_iff.mp added
  obtain ⟨top, opens⟩ := exists_head?_path c.here shown
  have other : name ≠ top := fun same => apart (same ▸ opens)
  have acts := Item.actsAt_change shown opens
  obtain ⟨root', changed', own⟩ := acts.exists_of_find?_eq (agrees.root top other.symm) changed
  refine ⟨d.after item root', add?_eq_some_iff.mpr ⟨?_, root', ?_, rfl⟩, agrees.after ?_, ?_, ?_⟩
  · rw [← agrees.bars_eq shown apart, free]
  · rw [← agrees.here, changed']
  · intro key away
    by_cases same : key = top
    · rw [same, own]
    · rw [acts.find?_of_ne changed same, acts.find?_of_ne changed' same, agrees.root key away]
  · rw [root_after, acts.find?_of_ne changed other]
  · rw [root_after, acts.find?_of_ne changed' other]

/-- A key that an item works on has a value, and so has one that had a value before. -/
theorem find?_ne_none_of_add? (shown : item.key ≠ []) (added : c.add? item = some d)
    (there : (item.path c.here).head? = some name ∨ find? name c.root ≠ none) :
    find? name d.root ≠ none := by
  obtain ⟨-, root, changed, rfl⟩ := add?_eq_some_iff.mp added
  obtain ⟨top, opens⟩ := exists_head?_path c.here shown
  have acts := Item.actsAt_change shown opens
  rw [root_after]
  by_cases same : name = top
  · rw [same]
    exact acts.find?_ne_none changed
  · rcases there with works | held
    · exact absurd (Option.some.inj (works.symm.trans opens)) same
    · rwa [acts.find?_of_ne changed same]

theorem nodup_keysOf_of_add? (shown : item.key ≠ []) (added : c.add? item = some d)
    (distinct : (keysOf c.root).Nodup) : (keysOf d.root).Nodup := by
  obtain ⟨-, root, changed, rfl⟩ := add?_eq_some_iff.mp added
  obtain ⟨top, opens⟩ := exists_head?_path c.here shown
  rw [root_after]
  exact (Item.actsAt_change shown opens).nodup_keysOf changed distinct

/-! ## Keys that hold a value of their own -/

/-- Whether a key at the top has been given a value, and nothing has been opened below it. -/
structure Holds (name : String) (c : Content) : Prop where
  filled : ∃ value, find? name c.root = some value ∧
    (Inline.isCollection value = true → [name] ∈ c.closed)
  here : c.here.head? ≠ some name

/-- No path leads through a value that is no collection. -/
theorem changeAt?_of_scalar {open? : Bool} {change : Table → Option Table} {path : List String}
    {t : Table} {value : Value} (held : find? name t = some value)
    (scalar : Inline.isCollection value = false) :
    changeAt? open? change (name :: path) t = none := by
  rw [changeAt?, held]
  cases value <;> first | rfl | cases scalar

theorem exists_splitLast_eq_cons (part next : String) (rest : List String) :
    ∃ path last, splitLast (part :: next :: rest) = (part :: path, last) :=
  ⟨(splitLast (next :: rest)).1, (splitLast (next :: rest)).2, rfl⟩

theorem isBelow_of_mem {paths : List (List String)} (closed : [name] ∈ paths)
    (path : List String) : isBelow paths (name :: path) = true :=
  isBelow_eq_true_iff.mpr ⟨[name], closed, path, rfl⟩

/-- No path leads through a key that holds a value. -/
theorem Holds.blocks (holds : Holds name c) :
    (∀ path, isBelow c.closed (name :: path) = true) ∨
      ∀ open? change path, changeAt? open? change (name :: path) c.root = none := by
  obtain ⟨value, held, closes⟩ := holds.filled
  cases collection : Inline.isCollection value with
  | true => exact .inl (isBelow_of_mem (closes collection))
  | false => exact .inr fun open? change path => changeAt?_of_scalar held collection

/-- No table is added to a key that holds a value, unless nothing is said below it. -/
theorem Holds.extend?_eq_none (holds : Holds name c) :
    isBelow c.closed [name] = true ∨ extend? name c.root = none := by
  obtain ⟨value, held, closes⟩ := holds.filled
  cases collection : Inline.isCollection value with
  | true => exact .inl (isBelow_of_mem (closes collection) [])
  | false =>
      refine .inr ?_
      rw [extend?, held]
      cases value <;> first | rfl | cases collection

theorem Holds.define?_eq_none (holds : Holds name c) (value : Value) :
    define? name value c.root = none := by
  obtain ⟨old, held, -⟩ := holds.filled
  rw [define?, held]

theorem add?_eq_none_of_or (stopped : c.bars item = true ∨ item.change c.here c.root = none) :
    c.add? item = none := by
  rw [add?_eq]
  rcases stopped with barred | blocked
  · rw [if_pos barred]
  · rw [blocked, Option.map_none, ite_self]

/-- Nothing is added at or below a key that holds a value. -/
theorem Holds.add?_eq_none (holds : Holds name c) (works : (item.path c.here).head? = some name) :
    c.add? item = none := by
  refine add?_eq_none_of_or ?_
  cases item with
  | entry key value =>
      have here : c.here = [] := by
        cases top : c.here with
        | nil => rfl
        | cons part rest =>
            refine absurd ?_ holds.here
            rw [Item.path, top] at works
            rw [top]
            exact works
      simp only [bars, Item.change, here, List.nil_append, Bool.or_eq_true]
      rw [Item.path, here, List.nil_append] at works
      match key, works with
      | [_], rfl => exact .inr (holds.define?_eq_none value)
      | _ :: next :: rest, rfl =>
          obtain ⟨path, last, split⟩ := exists_splitLast_eq_cons name next rest
          rw [split]
          exact holds.blocks.imp (fun below => .inr (below path)) fun none => none _ _ path
  | header array key =>
      match array, key, works with
      | false, _ :: rest, rfl =>
          simp only [bars, Item.change, Bool.or_eq_true]
          exact holds.blocks.imp (fun below => .inr (below rest)) fun none => none _ _ rest
      | true, [_], rfl => exact holds.extend?_eq_none
      | true, _ :: next :: rest, rfl =>
          obtain ⟨path, last, split⟩ := exists_splitLast_eq_cons name next rest
          simp only [bars, Item.change, split]
          exact holds.blocks.imp (fun below => below (next :: rest)) fun none => none _ _ path

theorem Holds.of_add? (holds : Holds name c) (shown : item.key ≠ [])
    (added : c.add? item = some d) :
    (item.path c.here).head? ≠ some name ∧ Holds name d := by
  have apart : (item.path c.here).head? ≠ some name := by
    intro works
    rw [holds.add?_eq_none works] at added
    cases added
  refine ⟨apart, ?_⟩
  obtain ⟨value, held, closes⟩ := holds.filled
  obtain ⟨-, root, changed, rfl⟩ := add?_eq_some_iff.mp added
  obtain ⟨top, opens⟩ := exists_head?_path c.here shown
  have other : name ≠ top := fun same => apart (same ▸ opens)
  have kept := (Item.actsAt_change shown opens).find?_of_ne changed other
  refine ⟨⟨value, by rw [root_after, kept, held], fun collection => ?_⟩, ?_⟩
  · have closed := closes collection
    cases item with
    | entry key value =>
        simp only [after]
        split
        · exact List.mem_cons_of_mem _ closed
        · exact closed
    | header array key =>
        cases array with
        | false => exact closed
        | true =>
            refine List.mem_filter.mpr ⟨closed, ?_⟩
            cases key with
            | nil => exact absurd rfl shown
            | cons part path =>
                have away : part ≠ name := fun same => apart (by rw [← same]; rfl)
                simp [List.isPrefixOf, away]
  · rw [here_after]
    cases item with
    | entry key value => exact holds.here
    | header array key => exact apart

/-! ## Items one after the other -/

theorem addAll_append (c : Content) (front back : List Item) :
    c.addAll (front ++ back) = (c.addAll front).bind fun d => d.addAll back := by
  induction front generalizing c with
  | nil => rfl
  | cons item front ih =>
      rw [List.cons_append, addAll, addAll]
      cases c.add? item with
      | none => rfl
      | some next => exact ih next

/-- Whether some items work on other keys than one, given the table that is open before them. -/
def Spares (name : String) : List String → List Item → Prop
  | _, [] => True
  | here, item :: rest => (item.path here).head? ≠ some name ∧ Spares name (item.opens here) rest

theorem exists_of_addAll_cons {items : List Item} (all : c.addAll (item :: items) = .ok r) :
    ∃ next, c.add? item = some next ∧ next.addAll items = .ok r ∧
      next.here = item.opens c.here := by
  rw [addAll] at all
  cases added : c.add? item with
  | none =>
      rw [added] at all
      cases all
  | some next =>
      rw [added] at all
      obtain ⟨-, root, -, rfl⟩ := add?_eq_some_iff.mp added
      exact ⟨_, rfl, all, here_after c item root⟩

section Items

variable {items : List Item} (named : ∀ item ∈ items, item.key ≠ [])
include named

theorem Agrees.exists_addAll (agrees : Agrees name c d) (spares : Spares name c.here items)
    (all : c.addAll items = .ok r) :
    ∃ s, d.addAll items = .ok s ∧ Agrees name r s ∧ find? name r.root = find? name c.root ∧
      find? name s.root = find? name d.root := by
  induction items generalizing c d with
  | nil =>
      cases all
      exact ⟨d, rfl, agrees, rfl, rfl⟩
  | cons item items ih =>
      obtain ⟨shown, others⟩ := List.forall_mem_cons.mp named
      obtain ⟨apart, later⟩ := spares
      obtain ⟨next, added, rest, here⟩ := exists_of_addAll_cons all
      obtain ⟨next', added', still, own, own'⟩ := agrees.exists_add? shown apart added
      rw [← here] at later
      obtain ⟨s, all', agree, first, second⟩ := ih others still later rest
      refine ⟨s, ?_, agree, first.trans own, second.trans own'⟩
      rw [addAll, added']
      exact all'

theorem Holds.spares (holds : Holds name c) (all : c.addAll items = .ok r) :
    Spares name c.here items := by
  induction items generalizing c with
  | nil => trivial
  | cons item items ih =>
      obtain ⟨shown, others⟩ := List.forall_mem_cons.mp named
      obtain ⟨next, added, rest, here⟩ := exists_of_addAll_cons all
      obtain ⟨apart, still⟩ := holds.of_add? shown added
      exact ⟨apart, here ▸ ih others still rest⟩

theorem find?_ne_none_of_addAll (held : find? name c.root ≠ none) (all : c.addAll items = .ok r) :
    find? name r.root ≠ none := by
  induction items generalizing c with
  | nil =>
      cases all
      exact held
  | cons item items ih =>
      obtain ⟨shown, others⟩ := List.forall_mem_cons.mp named
      obtain ⟨next, added, rest, -⟩ := exists_of_addAll_cons all
      exact ih others (find?_ne_none_of_add? shown added (.inr held)) rest

/-- Items define no key twice. -/
theorem nodup_keysOf_of_addAll (all : c.addAll items = .ok r) (distinct : (keysOf c.root).Nodup) :
    (keysOf r.root).Nodup := by
  induction items generalizing c with
  | nil =>
      cases all
      exact distinct
  | cons item items ih =>
      obtain ⟨shown, others⟩ := List.forall_mem_cons.mp named
      obtain ⟨next, added, rest, -⟩ := exists_of_addAll_cons all
      exact ih others rest (nodup_keysOf_of_add? shown added distinct)

/-- Items that leave a key without a value have not worked on it. -/
theorem spares_of_find?_eq_none (all : c.addAll items = .ok r) (absent : find? name r.root = none) :
    Spares name c.here items := by
  induction items generalizing c with
  | nil => trivial
  | cons item items ih =>
      obtain ⟨shown, others⟩ := List.forall_mem_cons.mp named
      obtain ⟨next, added, rest, here⟩ := exists_of_addAll_cons all
      refine ⟨fun works => ?_, here ▸ ih others rest⟩
      have held := find?_ne_none_of_add? shown added (.inl works)
      exact find?_ne_none_of_addAll others held rest absent

end Items

/-! ## Entries at the top -/

theorem here_of_addAll {items : List Item} (entries : ∀ item ∈ items, item.isEntry = true)
    (all : c.addAll items = .ok r) : r.here = c.here := by
  induction items generalizing c with
  | nil =>
      cases all
      rfl
  | cons item items ih =>
      obtain ⟨own, others⟩ := List.forall_mem_cons.mp entries
      obtain ⟨next, -, rest, here⟩ := exists_of_addAll_cons all
      rw [ih others rest, here]
      cases item with
      | entry key value => rfl
      | header array key => cases own

/-- Whether nothing at the top is closed as a whole. -/
def IsOpen (c : Content) : Prop :=
  [] ∉ c.closed

theorem IsOpen.of_add? (opened : c.IsOpen) (shown : item.key ≠ []) (added : c.add? item = some d) :
    d.IsOpen := by
  obtain ⟨-, root, -, rfl⟩ := add?_eq_some_iff.mp added
  cases item with
  | entry key value =>
      simp only [IsOpen, after]
      split
      · intro member
        rcases List.mem_cons.mp member with same | old
        · exact shown (List.append_eq_nil_iff.mp same.symm).2
        · exact opened old
      · exact opened
  | header array key =>
      cases array with
      | false => exact opened
      | true => exact fun member => opened (List.mem_filter.mp member).1

theorem IsOpen.of_addAll (opened : c.IsOpen) {items : List Item}
    (named : ∀ item ∈ items, item.key ≠ []) (all : c.addAll items = .ok r) : r.IsOpen := by
  induction items generalizing c with
  | nil =>
      cases all
      exact opened
  | cons item items ih =>
      obtain ⟨shown, others⟩ := List.forall_mem_cons.mp named
      obtain ⟨next, added, rest, -⟩ := exists_of_addAll_cons all
      exact ih (opened.of_add? shown added) others rest

section Top

variable {value : Value} (top : c.here = [])
include top

/-- A key at the top is given a value exactly when it has none. -/
theorem add?_top_eq (opened : c.IsOpen) :
    c.add? (.entry [name] value) =
      if find? name c.root = none then
        some (c.after (.entry [name] value) (assign name value c.root))
      else none := by
  have free : c.bars (.entry [name] value) = false := by
    have below : isBelow c.closed [] = false := by
      refine Bool.eq_false_iff.mpr fun closed => ?_
      obtain ⟨p, member, whole⟩ := isBelow_eq_true_iff.mp closed
      rw [List.prefix_nil.mp whole] at member
      exact opened member
    simp only [bars, between, splitLast, top, List.append_nil, List.any_nil, below, Bool.or_false]
  have change : Item.change c.here (.entry [name] value) c.root = define? name value c.root := by
    rw [top]
    rfl
  rw [add?_eq, free, change, define?]
  cases find? name c.root with
  | none => rfl
  | some old => rfl

/-- A value at the top is all that its entry adds. -/
theorem agrees_top (name : String) (value : Value) :
    Agrees name c (c.after (.entry [name] value) (assign name value c.root)) where
  here := rfl
  explicit := rfl
  pending := rfl
  closed path apart := by
    simp only [after, top, List.nil_append]
    split
    · simp [apart]
    · rfl
  root key apart := (find?_assign_of_ne (Ne.symm apart) value c.root).symm

theorem holds_top (name : String) (value : Value) :
    Holds name (c.after (.entry [name] value) (assign name value c.root)) where
  filled := by
    refine ⟨value, find?_assign_self name value c.root, fun collection => ?_⟩
    simp only [after, top, List.nil_append, collection, if_true]
    exact List.mem_cons_self
  here := by
    simp [after, top]

end Top

end Content

/-! ## What items yield -/

/-- Whether items, one after the other, give every key at the top a certain value. -/
def Yields (items : List Item) (values : String → Option Value) : Prop :=
  ∃ c, ({} : Content).addAll items = .ok c ∧ ∀ key, find? key c.root = values key

theorem Content.isOpen_empty : ({} : Content).IsOpen :=
  List.not_mem_nil

/-- The entry of a key at the top adds its value, and nothing else, to what the items around it
yield. -/
theorem yields_entry_iff {front back : List Item} {name : String} {value : Value}
    {values : String → Option Value} (entries : ∀ item ∈ front, item.isEntry = true)
    (named : ∀ item ∈ front ++ back, item.key ≠ []) :
    Yields (front ++ .entry [name] value :: back) values ↔
      values name = some value ∧ Yields (front ++ back) (Function.update values name none) := by
  obtain ⟨before, behind⟩ := List.forall_mem_append.mp named
  unfold Yields
  simp only [Content.addAll_append]
  cases all : ({} : Content).addAll front with
  | error fault =>
      refine iff_of_false ?_ ?_
      · rintro ⟨c, impossible, -⟩
        cases impossible
      · rintro ⟨-, c, impossible, -⟩
        cases impossible
  | ok c =>
      have top : c.here = [] := Content.here_of_addAll entries all
      have opened := Content.isOpen_empty.of_addAll before all
      have agrees := Content.agrees_top top name value
      simp only [Except.bind, Content.addAll, Content.add?_top_eq top opened]
      constructor
      · rintro ⟨r, rest, yields⟩
        by_cases unset : find? name c.root = none
        · rw [if_pos unset] at rest
          have spares := (Content.holds_top top name value).spares behind rest
          obtain ⟨s, rest', still, given, own⟩ := agrees.symm.exists_addAll behind spares rest
          refine ⟨?_, s, rest', fun key => ?_⟩
          · rw [← yields, given]
            exact find?_assign_self name value c.root
          · by_cases same : key = name
            · rw [same, own, unset, Function.update_self]
            · rw [← still.root key same, yields, Function.update_of_ne same]
        · rw [if_neg unset] at rest
          cases rest
      · rintro ⟨held, r, rest, yields⟩
        have absent : find? name r.root = none := by rw [yields, Function.update_self]
        have unset : find? name c.root = none := by
          by_contra filled
          exact Content.find?_ne_none_of_addAll behind filled rest absent
        have spares := Content.spares_of_find?_eq_none behind rest absent
        obtain ⟨s, rest', still, -, own⟩ := agrees.exists_addAll behind spares rest
        refine ⟨s, by rw [if_pos unset]; exact rest', fun key => ?_⟩
        by_cases same : key = name
        · rw [same, held, own]
          exact find?_assign_self name value c.root
        · rw [← still.root key same, yields, Function.update_of_ne same]

/-- Items that give a key no value at the top do not work on it. -/
theorem Yields.spares {items : List Item} {values : String → Option Value} {name : String}
    (yields : Yields items values) (named : ∀ item ∈ items, item.key ≠ [])
    (free : values name = none) : Content.Spares name [] items := by
  obtain ⟨c, all, found⟩ := yields
  exact Content.spares_of_find?_eq_none named all ((found name).trans free)

end CommandDocs.Toml

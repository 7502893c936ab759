import CommandDocs.Proofs.Toml.Flat.Kept
import CommandDocs.Proofs.Toml.Flat.Keys
import CommandDocs.Toml.Layout.Edit

/-!
# Editing flat documents

Setting a key in the nodes of a flat document gives the nodes of a flat document.  Its table is the
old one with the key assigned: an entry that is there keeps its place, a new one comes last.
-/

namespace CommandDocs.Toml

/-! ## The order of rows -/

theorem entriesOf_append (front back : List Row) :
    entriesOf (front ++ back) = entriesOf front ++ entriesOf back :=
  List.filterMap_append

theorem keysOf_tableOf (rows : List Row) : keysOf (tableOf rows) = (entriesOf rows).map Entry.name := by
  simp [keysOf, tableOf]

section Order

variable {front back : List Row}

theorem Orderly.of_append_right (orderly : Orderly (front ++ back)) : Orderly back := by
  induction front with
  | nil => exact orderly
  | cons row front ih => exact ih orderly.tail

theorem Orderly.of_append_left (orderly : Orderly (front ++ back)) : Orderly front := by
  induction front with
  | nil => trivial
  | cons row front ih =>
      cases front with
      | nil => exact orderly.text_ne_nil
      | cons next front => exact ⟨orderly.1, ih orderly.tail⟩

/-- A row with its line feed can stand before others. -/
theorem Orderly.cons {row : Row} (closed : row.closed = true) (orderly : Orderly back) :
    Orderly (row :: back) := by
  cases back with
  | nil => exact Row.text_ne_nil_of_closed closed
  | cons next back => exact ⟨closed, orderly⟩

theorem Orderly.append (closed : ∀ row ∈ front, row.closed = true) (orderly : Orderly back) :
    Orderly (front ++ back) := by
  induction front with
  | nil => exact orderly
  | cons row front ih =>
      obtain ⟨own, others⟩ := List.forall_mem_cons.mp closed
      exact (ih others).cons own

/-- Rows may be changed in place, if each one still shows. -/
theorem Orderly.map {change : Row → Row} (orderly : Orderly front)
    (closed : ∀ row, (change row).closed = row.closed)
    (shows : ∀ row, row.text ≠ [] → (change row).text ≠ []) : Orderly (front.map change) := by
  induction front with
  | nil => trivial
  | cons row front ih =>
      cases front with
      | nil => exact shows row orderly
      | cons next front => exact ⟨(closed row).trans orderly.1, ih orderly.2⟩

end Order

/-! ## Changing an entry -/

section Replace

variable (name : String) {value : List Char} {content : Value} (literal : IsLiteral value content)

def Entry.replace (e : Entry) : Entry :=
  if e.name = name then { e with value, content, literal } else e

/-- A row with a new value, if it is the entry of a key. -/
def Row.replace : Row → Row
  | ⟨.entry e, closed⟩ => ⟨.entry (e.replace name literal), closed⟩
  | row => row

theorem Entry.name_replace (e : Entry) : (e.replace name literal).name = e.name := by
  unfold replace
  split <;> rfl

theorem Row.closed_replace (row : Row) : (row.replace name literal).closed = row.closed := by
  obtain ⟨line, closed⟩ := row
  cases line <;> rfl

theorem Row.replace_text_ne_nil {row : Row} (shows : row.text ≠ []) :
    (row.replace name literal).text ≠ [] := by
  obtain ⟨line, closed⟩ := row
  cases line with
  | blank gap white => exact shows
  | remark gap words white legal => exact shows
  | entry e => simp [replace, text, Line.text, Entry.lead]

theorem entriesOf_map_replace (rows : List Row) :
    entriesOf (rows.map (Row.replace name literal)) =
      (entriesOf rows).map (Entry.replace name literal) := by
  have each (row : Row) : (row.replace name literal).line.entry? =
      row.line.entry?.map (Entry.replace name literal) := by
    obtain ⟨line, closed⟩ := row
    cases line <;> rfl
  simp [entriesOf, List.filterMap_map, List.map_filterMap, each]

/-- Changing an entry in its place assigns its key. -/
theorem map_replace_eq_assign {entries : List Entry} (distinct : (entries.map Entry.name).Nodup)
    (member : name ∈ entries.map Entry.name) :
    (entries.map (Entry.replace name literal)).map (fun e => (e.name, e.content)) =
      assign name content (entries.map fun e => (e.name, e.content)) := by
  induction entries with
  | nil => cases member
  | cons e entries ih =>
      obtain ⟨fresh, others⟩ := List.nodup_cons.mp distinct
      by_cases own : e.name = name
      · have kept : entries.map (Entry.replace name literal) = entries := by
          refine (List.map_congr_left fun other among => ?_).trans (List.map_id entries)
          have apart : other.name ≠ name := fun same =>
            fresh (by rw [own, ← same]; exact List.mem_map_of_mem among)
          simp [Entry.replace, apart]
        simp [kept, assign, own, Entry.replace]
      · have later : name ∈ entries.map Entry.name := by
          rcases List.mem_cons.mp member with same | later
          · exact absurd same.symm own
          · exact later
        rw [List.map_cons, List.map_cons, ih others later]
        simp [assign, own, Entry.replace]

namespace Layout

theorem Shows.replace {row : Row} {node : Node} (shows : Shows row node) :
    Shows (row.replace name literal) (node.replace (pointsOf name) value) := by
  cases shows with
  | space gap white closed => exact .space gap white closed
  | remark gap words white legal closed => exact .remark gap words white legal closed
  | @entry e closed part named =>
      by_cases own : e.name = name
      · subst own
        have same : (part.name == pointsOf e.name) = true := by simp [named]
        simp only [Row.replace, Node.replace, Entry.replace, same, if_true]
        exact .entry { e with value, content, literal } closed named
      · have apart : (part.name == pointsOf name) = false := by
          simpa [named] using fun same => own (pointsOf_injective same)
        simp only [Row.replace, Node.replace, Entry.replace, apart, own, if_false]
        exact .entry e closed named

end Layout

end Replace

/-! ## Adding an entry -/

def Row.shut (row : Row) : Row :=
  { row with closed := true }

def shutLast : List Row → List Row
  | [] => []
  | [row] => [row.shut]
  | row :: rest => row :: shutLast rest

theorem entriesOf_shutLast (rows : List Row) : entriesOf (shutLast rows) = entriesOf rows := by
  induction rows with
  | nil => rfl
  | cons row rest ih =>
      cases rest with
      | nil => rfl
      | cons next rest =>
          have later := ih
          simp only [entriesOf, shutLast, List.filterMap_cons] at later ⊢
          rw [later]

theorem closed_of_mem_shutLast {rows : List Row} (orderly : Orderly rows) :
    ∀ row ∈ shutLast rows, row.closed = true := by
  induction rows with
  | nil => simp [shutLast]
  | cons row rest ih =>
      cases rest with
      | nil => simp [shutLast, Row.shut]
      | cons next rest => exact List.forall_mem_cons.mpr ⟨orderly.1, ih orderly.2⟩

theorem not_feed_of_isSpace {gap : List Char} (white : IsSpace gap) : '\n' ∉ gap :=
  fun member => absurd (white _ member) (by decide)

theorem not_feed_of_isWords {words : List Char} (legal : IsWords words) : '\n' ∉ words :=
  fun member => absurd (legal _ member) (by decide)

theorem not_feed_of_isTail {tail : List Char} (ended : IsTail tail) : '\n' ∉ tail := by
  cases ended with
  | space white => exact not_feed_of_isSpace white
  | remark white legal =>
      simp [not_feed_of_isSpace white, not_feed_of_isWords legal]

namespace Layout

theorem endLine_feed {s : List Char} (single : '\n' ∉ s) (closed : Bool) :
    endLine (s ++ if closed then ['\n'] else []) = s ++ ['\n'] := by
  unfold endLine
  cases closed <;> simp [single]

theorem Shows.shut {row : Row} {node : Node} (shows : Shows row node)
    (content : node.isContent = true) : Shows row.shut node.close := by
  cases shows with
  | space => cases content
  | remark gap words white legal closed =>
      have single : '\n' ∉ gap ++ '#' :: words := by
        simp [not_feed_of_isSpace white, not_feed_of_isWords legal]
      have ended := endLine_feed single closed
      have shut := Shows.remark gap words white legal true
      simp only [Node.close, Row.shut, Row.text, Row.feed, Line.text, if_true] at ended shut ⊢
      rwa [ended]
  | @entry e closed part named =>
      have ended := endLine_feed (not_feed_of_isTail e.ended) closed
      have shut := Shows.entry e true named
      simp only [Node.close, Row.shut, Row.feed, if_true] at ended shut ⊢
      rwa [ended]

section Shown

variable {rows : List Row} {nodes : List Node} (shown : List.Forall₂ Shows rows nodes)
include shown

theorem shown_closeLast (content : ∀ node ∈ nodes.getLast?, node.isContent = true) :
    List.Forall₂ Shows (shutLast rows) (closeLast nodes) := by
  induction shown with
  | nil => exact .nil
  | @cons row node rows nodes shows shown ih =>
      cases shown with
      | nil => exact .cons (shows.shut (content node rfl)) .nil
      | @cons next other rows nodes following shown =>
          refine .cons shows (ih fun last ends => content last ?_)
          rwa [List.getLast?_cons_cons]

/-- A node is the entry of a key exactly when a row is. -/
theorem any_isEntryOf_of_shown (name : String) :
    nodes.any (Node.isEntryOf (pointsOf name)) = true ↔ name ∈ (entriesOf rows).map Entry.name := by
  induction shown with
  | nil => simp [entriesOf]
  | @cons row node rows nodes shows shown ih =>
      rw [List.any_cons, Bool.or_eq_true, ih]
      cases shows with
      | space => simp [Node.isEntryOf, entriesOf, Line.entry?]
      | remark => simp [Node.isEntryOf, entriesOf, Line.entry?]
      | @entry e closed part named =>
          simp [Node.isEntryOf, entriesOf, Line.entry?, named, pointsOf_injective.eq_iff,
            @eq_comm _ e.name name]

theorem map_vacate_of_shown {name : String} (absent : name ∉ (entriesOf rows).map Entry.name) :
    nodes.map (Node.vacate (pointsOf name)) = nodes := by
  refine (List.map_congr_left fun node member => ?_).trans (List.map_id nodes)
  have apart : node.name? ≠ some (pointsOf name) := by
    intro named
    have among : pointsOf name ∈ nodes.filterMap Node.name? :=
      List.mem_filterMap.mpr ⟨node, member, named⟩
    rw [filterMap_name?_of_shown shown] at among
    obtain ⟨e, own, same⟩ := List.mem_map.mp among
    exact absent (List.mem_map.mpr ⟨e, own, pointsOf_injective same⟩)
  simp [Node.vacate, apart]

theorem takeWhile_not_opensLine_of_shown :
    nodes.takeWhile (fun node => !node.opensLine) = nodes := by
  induction shown with
  | nil => rfl
  | cons shows shown ih => simp [shows.not_opensLine, ih]

/-- Rows without content define nothing. -/
theorem entriesOf_of_shown_blank (blank : ∀ node ∈ nodes, node.isContent = false) :
    entriesOf rows = [] := by
  induction shown with
  | nil => rfl
  | @cons row node rows nodes shows shown ih =>
      obtain ⟨own, others⟩ := List.forall_mem_cons.mp blank
      cases shows with
      | space => exact ih others
      | remark => cases own
      | entry => cases own

end Shown

theorem Shows.setOff {row : Row} {node : Node} (shows : Shows row node) : node.setOff = node := by
  cases shows <;> rfl

section Append

variable {name : String} {value : List Char} {content : Value}

def newEntryOf (key : IsKey (name.toList ++ [' ']) name) (literal : IsLiteral value content) :
    Entry where
  indent := []
  spelling := name.toList ++ [' ']
  space := [' ']
  value := value
  tail := []
  name := name
  content := content
  indented := by simp [IsSpace]
  key := key
  spaced := by
    simp [IsSpace]
    decide
  literal := literal
  ended := isTail_nil

variable (key : IsKey (name.toList ++ [' ']) name) (literal : IsLiteral value content)

theorem shows_newEntry : Shows ⟨.entry (newEntryOf key literal), true⟩ (newEntry name value) := by
  have named : Part.name ⟨pointsOf name, name.toList⟩ = pointsOf (newEntryOf key literal).name := rfl
  have shows := Shows.entry (newEntryOf key literal) true named
  simpa [newEntryOf, newEntry, Entry.lead, Row.feed, pointsOf] using shows

variable {rows : List Row} {nodes : List Node} (shown : List.Forall₂ Shows rows nodes)
include shown

/-- Adding an entry cuts the nodes after the last content. -/
theorem append_eq_of_shown (name : String) (value : List Char) :
    append name value nodes =
      closeLast (nodes.rdropWhile fun node => !node.isContent) ++
        newEntry name value :: nodes.rtakeWhile fun node => !node.isContent := by
  have whole : (nodes.rdropWhile fun node => !node.isContent) ++
      (nodes.rtakeWhile fun node => !node.isContent) = nodes := List.rdropWhile_append_rtakeWhile
  have cut : ((nodes.rdropWhile fun node => !node.isContent) ++
      (nodes.rtakeWhile fun node => !node.isContent)).drop
        (nodes.rdropWhile fun node => !node.isContent).length =
      nodes.rtakeWhile fun node => !node.isContent := List.drop_left
  rw [whole] at cut
  unfold append
  simp only [takeWhile_not_opensLine_of_shown shown]
  rw [← List.rdropWhile, cut]
  cases after : nodes.rtakeWhile fun node => !node.isContent with
  | nil => rfl
  | cons next rest =>
      have member : next ∈ nodes := by
        refine (List.rtakeWhile_suffix (fun node => !node.isContent) nodes).mem ?_
        rw [after]
        exact List.mem_cons_self
      obtain ⟨row, shows⟩ := exists_row_of_shown shown next member
      simp only [shows.setOff]

/-- The nodes with a new entry show the rows up to the last content, the entry, and the rows
without content. -/
theorem append_of_shown :
    ∃ front back, rows = front ++ back ∧ entriesOf back = [] ∧
      List.Forall₂ Shows (shutLast front ++ ⟨.entry (newEntryOf key literal), true⟩ :: back)
        (append name value nodes) := by
  rw [append_eq_of_shown shown]
  have last : ∀ node ∈ (nodes.rdropWhile fun node => !node.isContent).getLast?,
      node.isContent = true := by
    intro node ends
    obtain ⟨nonempty, rfl⟩ := List.mem_getLast?_eq_getLast ends
    simpa using List.rdropWhile_last_not (fun node => !node.isContent) nodes nonempty
  have blank : ∀ node ∈ nodes.rtakeWhile fun node => !node.isContent, node.isContent = false := by
    intro node member
    simpa using List.mem_rtakeWhile_imp member
  have split : List.Forall₂ Shows rows ((nodes.rdropWhile fun node => !node.isContent) ++
      nodes.rtakeWhile fun node => !node.isContent) := by
    rwa [List.rdropWhile_append_rtakeWhile]
  have before := List.forall₂_take_append rows _ _ split
  have after := List.forall₂_drop_append rows _ _ split
  refine ⟨_, _, (List.take_append_drop _ rows).symm, entriesOf_of_shown_blank after blank, ?_⟩
  exact List.rel_append (shown_closeLast before last) (.cons (shows_newEntry key literal) after)

end Append

/-! ## Setting a key -/

section Set

variable {name : String} {value : List Char} {content : Value} {rows : List Row}
  {nodes : List Node}

/-- An entry that is there keeps its place. -/
theorem set_of_mem (literal : IsLiteral value content) (flat : IsFlat rows)
    (shown : List.Forall₂ Shows rows nodes) (member : name ∈ (entriesOf rows).map Entry.name) :
    ∃ others, IsFlat others ∧ List.Forall₂ Shows others (set name value nodes) ∧
      tableOf others = assign name content (tableOf rows) := by
  refine ⟨rows.map (Row.replace name literal), ⟨?_, ?_⟩, ?_, ?_⟩
  · exact flat.orderly.map (Row.closed_replace name literal) fun row =>
      Row.replace_text_ne_nil name literal
  · rw [entriesOf_map_replace, List.map_map]
    have names : Entry.name ∘ Entry.replace name literal = Entry.name :=
      funext (Entry.name_replace name literal)
    rw [names]
    exact flat.distinct
  · have there := (any_isEntryOf_of_shown shown name).mpr member
    rw [pointsOf] at there
    rw [set, if_pos there]
    exact List.rel_map (fun _ _ shows => Shows.replace name literal shows) shown
  · rw [tableOf, entriesOf_map_replace]
    exact map_replace_eq_assign name literal flat.distinct member

/-- A new entry comes last. -/
theorem set_of_not_mem (key : IsKey (name.toList ++ [' ']) name) (literal : IsLiteral value content)
    (flat : IsFlat rows) (shown : List.Forall₂ Shows rows nodes)
    (absent : name ∉ (entriesOf rows).map Entry.name) :
    ∃ others, IsFlat others ∧ List.Forall₂ Shows others (set name value nodes) ∧
      tableOf others = assign name content (tableOf rows) := by
  obtain ⟨front, back, rfl, nothing, grown⟩ := append_of_shown key literal shown
  have entries : entriesOf (shutLast front ++ ⟨.entry (newEntryOf key literal), true⟩ :: back) =
      entriesOf (front ++ back) ++ [newEntryOf key literal] := by
    rw [entriesOf_append, entriesOf_append, entriesOf_shutLast, nothing, List.append_nil]
    exact congrArg (entriesOf front ++ newEntryOf key literal :: ·) nothing
  refine ⟨shutLast front ++ ⟨.entry (newEntryOf key literal), true⟩ :: back, ⟨?_, ?_⟩, ?_, ?_⟩
  · have later : Orderly (⟨.entry (newEntryOf key literal), true⟩ :: back) :=
      flat.orderly.of_append_right.cons rfl
    exact later.append (closed_of_mem_shutLast flat.orderly.of_append_left)
  · rw [entries, List.map_append]
    exact flat.distinct.append (List.nodup_singleton name) (List.disjoint_singleton.mpr absent)
  · have missing : ¬nodes.any (Node.isEntryOf (pointsOf name)) = true := by
      rwa [any_isEntryOf_of_shown shown]
    have kept := map_vacate_of_shown shown absent
    rw [pointsOf] at missing kept
    rw [set, if_neg missing, kept]
    exact grown
  · have free : find? name (tableOf (front ++ back)) = none := by
      rwa [find?_eq_none_iff, keysOf_tableOf]
    rw [assign_of_find?_eq_none free, tableOf, entries, List.map_append]
    rfl

/-- Setting a key in the nodes of a flat document assigns the key in its table. -/
theorem set_of_shown (key : IsKey (name.toList ++ [' ']) name) (literal : IsLiteral value content)
    (flat : IsFlat rows) (shown : List.Forall₂ Shows rows nodes) :
    ∃ others, IsFlat others ∧ List.Forall₂ Shows others (set name value nodes) ∧
      tableOf others = assign name content (tableOf rows) := by
  by_cases member : name ∈ (entriesOf rows).map Entry.name
  · exact set_of_mem literal flat shown member
  · exact set_of_not_mem key literal flat shown member

end Set

end Layout

end CommandDocs.Toml

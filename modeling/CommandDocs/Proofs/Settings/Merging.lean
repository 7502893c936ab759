import CommandDocs.Proofs.Settings.Reloading
import CommandDocs.Proofs.Toml.Sections.Kept

/-!
# Saving over a document with tables

Settings that are saved over a document are merged into it, and everything else stays, as far as
the document that holds them is kept.  A document with tables in order is kept as it is written.
One in which an array of tables is gone back to is not: its items are put together.
-/

namespace CommandDocs.Settings

open Files (Path Bytes)
open Toml (Table Strip Section Ordered PlainAt IsHeaded IsSectioned Merges Overrides Yields SetIn
  find? keysOf pointsOf valueAt itemsOn stripsText sectionsText)
open Toml.Layout (Node Stands SetOff nodesOf fieldsOn)

variable {η : Type}

theorem Stored.remarksIn_written (value : Stored) : Toml.remarksIn value.written = [] := by
  cases value with
  | text s => exact Toml.remarksIn_writeString s
  | number n => exact Toml.remarksIn_writeInteger n
  | texts items => exact Toml.remarksIn_writeStrings items

/-! ## Setting the keys -/

/-- What setting keys one after the other makes of a document: the lines before the first header
and the nodes from there on, with the text and the comments that they have, and what they yield. -/
structure IsSet (entries : List (Key × Stored)) (strips lines : List Strip)
    (others next : List Node) : Prop where
  ordered : Ordered (others = []) lines
  single : '\r' ∉ stripsText lines
  fed : ∃ feeds, (others = [] → feeds = 0) ∧ Toml.Layout.documentText next =
    List.replicate feeds '\n' ++ Toml.Layout.documentText others
  text : Toml.Layout.documentText (nodesOf lines ++ next) =
    stripsText lines ++ Toml.Layout.documentText next
  remarked : lines.flatMap (Strip.remarks []) =
    strips.flatMap (Strip.remarks (entries.map fun entry => [entry.1.name]))
  yields : ∀ items : List Toml.Item, (∀ item ∈ items, item.key ≠ []) →
    ∀ values : String → Option Toml.Value,
      (∀ entry ∈ entries, values entry.1.name = valueAt entry.1.name strips) →
        (Yields (itemsOn strips ++ items) values ↔ Yields (itemsOn lines ++ items) fun key =>
          (find? key (entries.map fun entry => (entry.1.name, entry.2.toValue))).or (values key))

theorem IsSet.refl {strips : List Strip} {others : List Node}
    (ordered : Ordered (others = []) strips) (single : '\r' ∉ stripsText strips) :
    IsSet [] strips strips others others where
  ordered := ordered
  single := single
  fed := ⟨0, fun _ => rfl, rfl⟩
  text := Toml.Layout.documentText_append ordered
  remarked := rfl
  yields _ _ _ _ := Iff.rfl

section Step

variable {key : Key} {value : Stored} {entries : List (Key × Stored)}
  {strips lines last : List Strip} {others next rest : List Node}

/-- What the first key is given is found after what the others are given. -/
theorem find?_entries_or (fresh : key.name ∉ entries.map fun entry => entry.1.name)
    (values : String → Option Toml.Value) :
    (fun name => (find? name (entries.map fun entry => (entry.1.name, entry.2.toValue))).or
      (Function.update values key.name (some value.toValue) name)) =
    fun name => (find? name (((key, value) :: entries).map fun entry =>
      (entry.1.name, entry.2.toValue))).or (values name) := by
  funext name
  by_cases same : name = key.name
  · have absent : find? name (entries.map fun entry => (entry.1.name, entry.2.toValue)) = none := by
      rw [Toml.find?_eq_none_iff, same, keysOf, List.map_map]
      exact fresh
    rw [absent, same, Function.update_self, List.map_cons, Toml.find?_cons_self]
    rfl
  · rw [Function.update_of_ne same, List.map_cons, Toml.find?_cons_of_ne (Ne.symm same)]

/-- A key that is set first changes what it changes, and the others the rest. -/
theorem IsSet.cons (own : value.isWritable = true)
    (set : SetIn key.isKey (Stored.isLiteral_written own) strips lines)
    (off : SetOff others next) (stands : Stands (nodesOf strips) others)
    (fresh : key.name ∉ entries.map fun entry => entry.1.name)
    (later : IsSet entries lines last next rest) :
    IsSet ((key, value) :: entries) strips last others rest where
  ordered := by
    rw [← off.eq_nil_iff]
    exact later.ordered
  single := later.single
  fed := by
    obtain ⟨first, none, text⟩ := off.documentText stands.headed
    obtain ⟨more, none', text'⟩ := later.fed
    refine ⟨more + first, fun empty => ?_, ?_⟩
    · rw [none empty, none' (off.eq_nil_iff.mpr empty)]
    · rw [text', text, ← List.append_assoc, List.replicate_append_replicate]
  text := later.text
  remarked := later.remarked.trans (set.remarks_eq value.remarksIn_written)
  yields items named values all := by
    obtain ⟨mine, theirs⟩ := List.forall_mem_cons.mp all
    rw [set.yields_iff named mine, later.yields items named, find?_entries_or fresh]
    intro entry member
    have other : entry.1.name ≠ key.name := fun same =>
      fresh (List.mem_map.mpr ⟨entry, member, same⟩)
    rw [Function.update_of_ne other, theirs entry member, set.valueAt_eq other]

end Step

/-- Keys are set one after the other. -/
theorem exists_foldl_set {entries : List (Key × Stored)}
    (writable : ∀ entry ∈ entries, entry.2.isWritable = true)
    (distinct : (entries.map fun entry => entry.1.name).Nodup) {strips : List Strip}
    {others : List Node} (plain : ∀ entry ∈ entries, PlainAt entry.1.name strips)
    (ordered : Ordered (others = []) strips) (single : '\r' ∉ stripsText strips)
    (stands : Stands (nodesOf strips) others)
    (apart : ∀ entry ∈ entries, ∀ node ∈ others, node.name? ≠ some (pointsOf entry.1.name)) :
    ∃ lines next, IsSet entries strips lines others next ∧
      entries.foldl (fun done (key, value) => Toml.Layout.set key.name value.written done)
        (nodesOf strips ++ others) = nodesOf lines ++ next := by
  induction entries generalizing strips others with
  | nil => exact ⟨strips, others, .refl ordered single, rfl⟩
  | cons entry entries ih =>
      obtain ⟨key, value⟩ := entry
      obtain ⟨own, writable⟩ := List.forall_mem_cons.mp writable
      obtain ⟨fresh, distinct⟩ := List.nodup_cons.mp distinct
      obtain ⟨here, plain⟩ := List.forall_mem_cons.mp plain
      obtain ⟨away, apart⟩ := List.forall_mem_cons.mp apart
      obtain ⟨lines, next, made, set, off⟩ := Toml.Layout.exists_set_eq key.isKey
        (Stored.isLiteral_written own) here ordered stands away
      have both : Ordered (next = []) lines := by
        rw [off.eq_nil_iff]
        exact set.ordered ordered
      have kept : ∀ entry ∈ entries, PlainAt entry.1.name lines := fun entry member => by
        have other : entry.1.name ≠ key.name := fun same =>
          fresh (List.mem_map.mpr ⟨entry, member, same⟩)
        rw [PlainAt, set.openings_eq other]
        exact plain entry member
      obtain ⟨last, rest, later, done⟩ := ih writable distinct kept both (set.single single)
        (off.stands stands) fun entry member => off.name? (apart entry member)
      refine ⟨last, rest, later.cons own set off stands fresh, ?_⟩
      rw [List.foldl_cons]
      dsimp only at made ⊢
      rw [made]
      exact done

/-! ## Saving -/

/-- Whether the keys that are set are plain in a document: each of them is the whole key of an entry
before the first header, or has no value, and no table opens with it. -/
structure IsPlainIn (s : Settings) (strips : List Strip) (nodes : List Node) (t : Table) :
    Prop where
  whole : ∀ name ∈ keysOf s.toTable,
    find? name t = none ∨ ∃ f ∈ fieldsOn strips, f.key = [name]
  apart : ∀ name ∈ keysOf s.toTable, ∀ node ∈ nodes, node.opensLine = true →
    node.name? ≠ some (pointsOf name)

def keptText (nodes : List Node) : String :=
  String.ofList (Toml.Layout.documentText nodes)

theorem keysOf_toTable (s : Settings) :
    keysOf s.toTable = s.entries.map fun entry => entry.1.name := by
  rw [keysOf, toTable, List.map_map]
  rfl

section Over

variable {s : Settings} {old : String} {strips : List Strip} {body : List Char} {nodes : List Node}
  {t : Table}

/-- Settings that can be written are written over a document.  They are merged into it exactly when
the document, written as it is kept, is still what it was, and the same holds of the values
alone. -/
theorem exists_textOver (headed : IsHeaded strips body)
    (laid : Text.dropReturns old.toList = stripsText strips ++ body)
    (valid : Toml.readTable old = .ok t)
    (read : Toml.Layout.readNodes? (Text.unifyBreaks old.toList) = some nodes)
    (plain : s.IsPlainIn strips nodes t)
    (writable : ∀ entry ∈ s.entries, entry.2.isWritable = true) :
    ∃ new, s.textOver (some old) = .ok new ∧
      (Overrides s.toTable t new ↔ Overrides [] t (keptText nodes)) ∧
      (Merges s.toTable old new ↔ Merges [] old (keptText nodes)) := by
  have composed : s.textOver (some old) = s.textInto nodes := by
    simp only [textOver, read]
  rw [headed.unifyBreaks_eq laid] at read
  obtain ⟨others, rfl, stands, none⟩ := Toml.Layout.stands_of_readNodes? headed.kept
    headed.ordered id headed.opens read
  have ordered : Ordered (others = []) strips := headed.ordered.mono none
  have single : '\r' ∉ stripsText strips := fun member =>
    headed.single (List.mem_append_left body member)
  have named (entry : Key × Stored) (member : entry ∈ s.entries) :
      entry.1.name ∈ keysOf s.toTable := by
    rw [keysOf_toTable]
    exact List.mem_map_of_mem member
  have each (entry : Key × Stored) (member : entry ∈ s.entries) :=
    Toml.plainAt_of_yields Toml.key_ne_nil_of_mem_itemsIn (headed.yields laid valid)
      (plain.whole _ (named entry member))
  have distinct : (s.entries.map fun entry => entry.1.name).Nodup := by
    rw [← keysOf_toTable]
    exact nodup_keysOf_toTable s
  obtain ⟨lines, next, set, made⟩ := exists_foldl_set writable distinct
    (fun entry member => (each entry member).1) ordered single stands
    fun entry member node among => plain.apart _ (named entry member) node
      (List.mem_append_right _ among) (stands.headed node among)
  obtain ⟨feeds, fed, text⟩ := set.fed
  refine ⟨String.ofList (stripsText lines ++ (List.replicate feeds '\n' ++
    Toml.Layout.documentText others)), ?_, ?_⟩
  · rw [composed, textInto, if_pos (List.all_eq_true.mpr writable), writeInto, made, set.text, text]
  · have empty : others = [] → Toml.Layout.documentText others = [] := by
      rintro rfl
      rfl
    have overrides := Toml.overrides_iff ordered set.ordered empty fed single set.single
      fun items shown => set.yields items shown _ fun entry member => (each entry member).2
    have remarked : lines.flatMap (Strip.remarks []) =
        strips.flatMap (Strip.remarks ((keysOf s.toTable).map fun key => [key])) := by
      rw [set.remarked, keysOf_toTable, List.map_map]
      rfl
    rw [keptText, Toml.Layout.documentText_append ordered]
    exact ⟨overrides, Toml.merges_iff headed laid valid ordered set.ordered empty fed single
      set.single remarked overrides⟩

end Over

section Saved

variable {settings : Settings} {text old : String} {w after : Workspace η} {p : Path}
  {bytes : Bytes} {strips : List Strip} {sections : List Section} {nodes : List Node} {t : Table}

/-- A save that returns has set the keys in the document that was there. -/
theorem exists_readNodes?_of_run_save (held : w.store.read w.here p = .ok bytes)
    (decoded : Text.decodeText bytes = .ok old)
    (saved : (save settings (.ofText text)).run w = (.ok p, after)) :
    ∃ nodes new, Toml.Layout.readNodes? (Text.unifyBreaks old.toList) = some nodes ∧
      settings.textOver (some old) = .ok new ∧
      after.store.read after.here p = .ok (Text.encodeText new) := by
  obtain ⟨new, merged, stored⟩ := exists_textOver_of_run_save held decoded saved
  cases read : Toml.Layout.readNodes? (Text.unifyBreaks old.toList) with
  | none =>
      simp only [textOver, read] at merged
      cases merged
  | some nodes => exact ⟨nodes, new, rfl, merged, stored⟩

/-- A document with tables in order is still what it was when it is written back as it is kept. -/
theorem merges_keptText (sectioned : IsSectioned strips sections)
    (laid : Text.dropReturns old.toList = stripsText strips ++ sectionsText sections)
    (valid : Toml.readTable old = .ok t)
    (read : Toml.Layout.readNodes? (Text.unifyBreaks old.toList) = some nodes) :
    Merges [] old (keptText nodes) := by
  rw [sectioned.isHeaded.unifyBreaks_eq laid] at read
  refine Toml.merges_nil_of_eq valid ?_
  rw [keptText, (sectioned.documentText read).1, String.toList_ofList, laid]
  exact Text.dropReturns_of_not_mem sectioned.single

/-- Keys are plain in a document with tables in order when each of them is the whole key of an
entry before the first header, or has no value, and no header starts with it. -/
theorem isPlainIn_of_sections (sectioned : IsSectioned strips sections)
    (laid : Text.dropReturns old.toList = stripsText strips ++ sectionsText sections)
    (whole : ∀ name ∈ keysOf settings.toTable,
      find? name t = none ∨ ∃ f ∈ fieldsOn strips, f.key = [name])
    (apart : ∀ name ∈ keysOf settings.toTable, ∀ s ∈ sections,
      s.head.path.head? ≠ some (pointsOf name))
    (read : Toml.Layout.readNodes? (Text.unifyBreaks old.toList) = some nodes) :
    settings.IsPlainIn strips nodes t where
  whole := whole
  apart name member node among opens same := by
    rw [sectioned.isHeaded.unifyBreaks_eq laid] at read
    obtain ⟨s, of, named⟩ := (sectioned.documentText read).2 node among opens
    exact apart name member s of (named.symm.trans same)

/-- Settings that are saved over a document with tables in order, in which their keys are plain, are
merged into it. -/
theorem save_merges_inOrder (held : w.store.read w.here p = .ok bytes)
    (decoded : Text.decodeText bytes = .ok old) (sectioned : IsSectioned strips sections)
    (laid : Text.dropReturns old.toList = stripsText strips ++ sectionsText sections)
    (valid : Toml.readTable old = .ok t)
    (whole : ∀ name ∈ keysOf settings.toTable,
      find? name t = none ∨ ∃ f ∈ fieldsOn strips, f.key = [name])
    (apart : ∀ name ∈ keysOf settings.toTable, ∀ s ∈ sections,
      s.head.path.head? ≠ some (pointsOf name))
    (saved : (save settings (.ofText text)).run w = (.ok p, after)) :
    ∃ new, after.store.read after.here p = .ok (Text.encodeText new) ∧
      Merges settings.toTable old new := by
  obtain ⟨nodes, new, read, merged, stored⟩ := exists_readNodes?_of_run_save held decoded saved
  obtain ⟨made, composed, -, merges⟩ := exists_textOver sectioned.isHeaded laid valid read
    (isPlainIn_of_sections sectioned laid whole apart read) (writable_of_textOver merged)
  rw [merged] at composed
  cases composed
  exact ⟨new, stored, merges.mpr (merges_keptText sectioned laid valid read)⟩

end Saved

theorem isSpace_blank : Toml.IsSpace [' '] :=
  List.all_eq_true.mp (by decide)

theorem isWords_wide : Toml.IsWords " wide".toList := by
  simp [Toml.IsWords, Toml.isIllegal]

theorem isTail_wide : Toml.IsTail " # wide".toList :=
  .remark isSpace_blank isWords_wide

theorem isWritable_eighty : Text.isWritable 80 = true :=
  isWritable_of_small (by decide)

def widthEntry : Toml.Entry where
  indent := []
  spelling := "help_width ".toList
  space := [' ']
  value := Toml.writeInteger 80
  tail := " # wide".toList
  name := "help_width"
  content := .integer 80
  indented := Toml.isSpace_nil
  key := Key.isKey .helpWidth
  spaced := isSpace_blank
  literal := Toml.isLiteral_writeInteger isWritable_eighty
  ended := isTail_wide

def widthStrips : List Strip :=
  [⟨.field widthEntry.kept, true⟩]

theorem isWords_one : Toml.IsWords " one".toList := by
  simp [Toml.IsWords, Toml.isIllegal]

theorem isWords_two : Toml.IsWords " two".toList := by
  simp [Toml.IsWords, Toml.isIllegal]

theorem isWords_three : Toml.IsWords " three".toList := by
  simp [Toml.IsWords, Toml.isIllegal]

/-- The line of a comment. -/
def remarkStrip (words : String) (legal : Toml.IsWords words.toList) : Strip :=
  ⟨.remark [] words.toList Toml.isSpace_nil legal, true⟩

/-- Sections with tables that are gone back to, and arrays of tables within an array of tables. -/
def spreadSections : List Section :=
  [Toml.bareSection ["a", "x"] false [remarkStrip " one" isWords_one] rfl,
    Toml.bareSection ["c"] false [] rfl,
    Toml.bareSection ["a", "y"] false [] rfl,
    Toml.bareSection ["b"] true [remarkStrip " two" isWords_two] rfl,
    Toml.bareSection ["b", "e"] true [] rfl,
    Toml.bareSection ["b"] true [] rfl,
    Toml.bareSection ["b", "e"] true [remarkStrip " three" isWords_three] rfl]

def spreadText : String :=
  "help_width = 80 # wide\n[a.x]\n# one\n[c]\n[a.y]\n[[b]]\n# two\n[[b.e]]\n[[b]]\n[[b.e]]\n# three\n"

theorem isSectioned_spread : Toml.IsSectioned widthStrips spreadSections where
  ordered := ⟨.inl rfl, trivial⟩
  closed := Toml.areClosed_of_closed (by decide)
  kept f member := by
    cases List.mem_singleton.mp member
    exact Toml.Layout.keeps_entry widthEntry
  single := by decide
  inOrder := by decide
  alike := by
    have bare : ∀ s ∈ spreadSections, ∃ names, s.key = Toml.bareParts names := by
      simp [spreadSections, Toml.bareSection]
    intro s member t among
    obtain ⟨names, own⟩ := bare s member
    obtain ⟨others, other⟩ := bare t among
    rw [own, other]
    exact Toml.alike_bareParts names others
  once := by decide
  flush := by decide

def spreadTable : Table :=
  [("help_width", .integer 80), ("a", .table [("x", .table []), ("y", .table [])]), ("c", .table []),
    ("b", .array [.table [("e", .array [.table []])], .table [("e", .array [.table []])]])]

theorem readTable_spreadText : Toml.readTable spreadText = .ok spreadTable :=
  Toml.readTable_of_same (by decide +kernel)

theorem dropReturns_spreadText :
    Text.dropReturns spreadText.toList = stripsText widthStrips ++ sectionsText spreadSections := by
  decide

theorem find?_spreadTable : ∀ name ∈ keysOf ({} : Settings).toTable, name ≠ "help_width" →
    find? name spreadTable = none := by
  decide

theorem whole_spread : ∀ name ∈ keysOf ({} : Settings).toTable,
    find? name spreadTable = none ∨ ∃ f ∈ fieldsOn widthStrips, f.key = [name] := by
  intro name member
  by_cases own : name = "help_width"
  · subst own
    exact .inr ⟨widthEntry.kept, List.mem_singleton_self _, rfl⟩
  · exact .inl (find?_spreadTable name member own)

theorem apart_spread : ∀ name ∈ keysOf ({} : Settings).toTable, ∀ s ∈ spreadSections,
    s.head.path.head? ≠ some (pointsOf name) := by
  decide

theorem isSome_readNodes?_spreadText :
    (Toml.Layout.readNodes? (Text.unifyBreaks spreadText.toList)).isSome = true := by
  decide +kernel

/-- Default settings that are saved over a file that goes back to its tables are merged into it. -/
theorem save_merges_spread :
    ((save {} (.ofText "c.toml")).run (holding (Text.encodeText spreadText))).1 =
        .ok ⟨.here, ["c.toml"]⟩ ∧
      ∃ new, ((save {} (.ofText "c.toml")).run (holding (Text.encodeText spreadText))).2.store.read
          [] ⟨.here, ["c.toml"]⟩ = .ok (Text.encodeText new) ∧
        Merges ({} : Settings).toTable spreadText new := by
  obtain ⟨nodes, read⟩ := Option.isSome_iff_exists.mp isSome_readNodes?_spreadText
  have plain := isPlainIn_of_sections isSectioned_spread dropReturns_spreadText whole_spread
    apart_spread read
  obtain ⟨new, merged, -⟩ := exists_textOver isSectioned_spread.isHeaded dropReturns_spreadText
    readTable_spreadText read plain isWritable_of_mem_default
  obtain ⟨store, log, saved, -⟩ := exists_run_save_holding merged
  rw [saved]
  exact ⟨rfl, save_merges_inOrder (read_holding _) (Text.decodeText_encodeText spreadText)
    isSectioned_spread dropReturns_spreadText readTable_spreadText whole_spread apart_spread saved⟩

/-! ## Tables that are not in order -/

/-- The text of a settings file in which an array of tables is gone back to. -/
def partedText : String :=
  "[[b]]\n# one\n[c]\n# two\n[[b]]\n# three\n"

def partedTable : Table :=
  [("b", .array [.table [], .table []]), ("c", .table [])]

theorem readTable_partedText : Toml.readTable partedText = .ok partedTable :=
  Toml.readTable_of_same (by decide +kernel)

/-- The items of the array are put together. -/
theorem exists_readNodes?_partedText : ∃ nodes,
    Toml.Layout.readNodes? (Text.unifyBreaks partedText.toList) = some nodes ∧
      nodes.map Node.name? = [some (pointsOf "b"), some (pointsOf "c")] ∧
      keptText nodes = "[[b]]\n# one\n[[b]]\n# three\n[c]\n# two\n" := by
  have kept : (Toml.Layout.readNodes? (Text.unifyBreaks partedText.toList)).map (fun nodes =>
      (nodes.map Node.name?, keptText nodes)) = some
        ([some (pointsOf "b"), some (pointsOf "c")],
          "[[b]]\n# one\n[[b]]\n# three\n[c]\n# two\n") := by
    decide +kernel
  obtain ⟨nodes, read, same⟩ := Option.map_eq_some_iff.mp kept
  exact ⟨nodes, read, Prod.mk.inj same⟩

theorem isHeaded_parted : IsHeaded [] partedText.toList where
  ordered := trivial
  kept := by simp [fieldsOn]
  opens := .inr ⟨_, rfl⟩
  single := by decide

theorem isPlainIn_parted {nodes : List Node}
    (named : nodes.map Node.name? = [some (pointsOf "b"), some (pointsOf "c")]) :
    IsPlainIn {} [] nodes partedTable where
  whole name member := .inl (by revert name; decide)
  apart name member node among _ := by
    have own : node.name? ∈ [some (pointsOf "b"), some (pointsOf "c")] :=
      named ▸ List.mem_map_of_mem among
    have other : ∀ name ∈ keysOf ({} : Settings).toTable,
        ∀ own ∈ [some (pointsOf "b"), some (pointsOf "c")], own ≠ some (pointsOf name) := by
      decide
    exact other name member _ own

/-- Default settings that are saved over a file that goes back to an array of tables are not merged
into it: the comments change their order. -/
theorem not_merges_parted :
    ((save {} (.ofText "c.toml")).run (holding (Text.encodeText partedText))).1 =
        .ok ⟨.here, ["c.toml"]⟩ ∧
      ∃ new, ((save {} (.ofText "c.toml")).run (holding (Text.encodeText partedText))).2.store.read
          [] ⟨.here, ["c.toml"]⟩ = .ok (Text.encodeText new) ∧
        ¬Merges ({} : Settings).toTable partedText new := by
  have laid : Text.dropReturns partedText.toList = stripsText [] ++ partedText.toList := by decide
  obtain ⟨nodes, read, named, kept⟩ := exists_readNodes?_partedText
  obtain ⟨new, merged, -, merges⟩ := exists_textOver isHeaded_parted laid readTable_partedText
    read (isPlainIn_parted named) isWritable_of_mem_default
  obtain ⟨store, log, saved, -⟩ := exists_run_save_holding merged
  obtain ⟨made, composed, stored⟩ := exists_textOver_of_run_save (read_holding _)
    (Text.decodeText_encodeText partedText) saved
  rw [merged] at composed
  cases composed
  rw [saved]
  refine ⟨rfl, new, stored, ?_⟩
  rw [merges]
  rintro ⟨t, u, -, -, -, remarked⟩
  change _ = Toml.remarksOn [] (Toml.linesIn partedText) at remarked
  rw [kept] at remarked
  revert remarked
  decide +kernel

end CommandDocs.Settings

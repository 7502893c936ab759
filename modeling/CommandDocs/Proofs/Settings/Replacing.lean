import CommandDocs.Proofs.CommandLine.Running
import CommandDocs.Proofs.Settings.Merging

/-!
# Replacing a settings file

What is loaded after a save over a document with tables: the settings with their own values, and a
key that they leave unset with what the document holds at its top.  A document without tables is a
special case.
-/

namespace CommandDocs.Settings

open Files (Path Bytes Store)
open Toml (Table Row IsFlat Strip Section Ordered IsHeaded IsSectioned Overrides find? keysOf
  pointsOf rowsText stripsText sectionsText)
open Toml.Layout (fieldsOn)

variable {η : Type}

/-! ## Documents that take settings in -/

/-- Whether a document takes in some settings: both readers agree on the lines before its first
header, the keys that are set are plain in it, and it still has its values when it is written back
as it is kept. -/
structure TakesIn (old : String) (s : Settings) (t : Table) : Prop where
  valid : Toml.readTable old = .ok t
  headed : ∃ strips body, IsHeaded strips body ∧
    Text.dropReturns old.toList = stripsText strips ++ body ∧
    ∀ nodes, Toml.Layout.readNodes? (Text.unifyBreaks old.toList) = some nodes →
      s.IsPlainIn strips nodes t
  kept : ∀ nodes, Toml.Layout.readNodes? (Text.unifyBreaks old.toList) = some nodes →
    Overrides [] t (keptText nodes)

section Documents

variable {s : Settings} {old : String} {strips : List Strip} {sections : List Section} {t : Table}

/-- A document with tables in order takes in settings when each of their keys is the whole key of an
entry before the first header, or has no value, and no header starts with it. -/
theorem TakesIn.of_sectioned (sectioned : IsSectioned strips sections)
    (laid : Text.dropReturns old.toList = stripsText strips ++ sectionsText sections)
    (valid : Toml.readTable old = .ok t)
    (whole : ∀ name ∈ keysOf s.toTable,
      find? name t = none ∨ ∃ f ∈ fieldsOn strips, f.key = [name])
    (apart : ∀ name ∈ keysOf s.toTable, ∀ sec ∈ sections,
      sec.head.path.head? ≠ some (pointsOf name)) : TakesIn old s t where
  valid := valid
  headed := ⟨strips, _, sectioned.isHeaded, laid, fun _ read =>
    isPlainIn_of_sections sectioned laid whole apart read⟩
  kept _ read := ((Toml.merges_iff_overrides valid).mp
    (merges_keptText sectioned laid valid read)).1

/-- A document without tables has them in order. -/
theorem isSectioned_nil (headed : IsHeaded strips []) : IsSectioned strips [] where
  ordered := headed.ordered.mono fun _ => rfl
  closed := trivial
  kept := by simpa using headed.kept
  single := headed.single
  inOrder := trivial
  alike := by simp
  once := by simp
  flush := by simp

theorem fieldsOn_map_strip (rows : List Row) :
    fieldsOn (rows.map Row.strip) = (Toml.entriesOf rows).map Toml.Entry.kept := by
  induction rows with
  | nil => rfl
  | cons row rows ih =>
      obtain ⟨line, closed⟩ := row
      cases line with
      | blank gap white => exact ih
      | remark gap words white legal => exact ih
      | entry e => exact congrArg (e.kept :: ·) ih

theorem TakesIn.of_flat {rows : List Row} (flat : IsFlat rows)
    (laid : Text.dropReturns old.toList = rowsText rows) (s : Settings) :
    TakesIn old s (Toml.tableOf rows) := by
  have headed : IsHeaded (rows.map Row.strip) [] :=
    Toml.isHeaded_rows flat.orderly (.inl rfl) (.inl rfl) List.not_mem_nil
  refine .of_sectioned (isSectioned_nil headed) ?_ ?_ ?_ (by simp)
  · rw [laid, Toml.stripsText_map_strip]
    exact (List.append_nil _).symm
  · rw [Toml.readTable, laid, Toml.readDocument_rowsText flat]
  · intro name _
    by_cases there : name ∈ keysOf (Toml.tableOf rows)
    · rw [Toml.keysOf_tableOf] at there
      obtain ⟨e, among, rfl⟩ := List.mem_map.mp there
      rw [fieldsOn_map_strip]
      exact .inr ⟨e.kept, List.mem_map_of_mem among, rfl⟩
    · exact .inl (Toml.find?_eq_none_iff.mpr there)

end Documents

/-! ## Loading -/

section Replacing

variable {settings : Settings} {text old : String} {w after : Workspace η} {p : Path}
  {bytes : Bytes} {t : Table}

/-- What is written over a document that takes settings in holds them, and its values for all other
keys. -/
theorem exists_overrides_of_run_save (held : w.store.read w.here p = .ok bytes)
    (decoded : Text.decodeText bytes = .ok old) (takes : TakesIn old settings t)
    (saved : (save settings (.ofText text)).run w = (.ok p, after)) :
    ∃ new, after.store.read after.here p = .ok (Text.encodeText new) ∧
      Overrides settings.toTable t new := by
  obtain ⟨strips, body, headed, laid, plain⟩ := takes.headed
  obtain ⟨nodes, new, read, merged, stored⟩ := exists_readNodes?_of_run_save held decoded saved
  obtain ⟨made, composed, overrides, -⟩ := exists_textOver headed laid takes.valid read
    (plain nodes read) (writable_of_textOver merged)
  rw [merged] at composed
  cases composed
  exact ⟨new, stored, overrides.mpr (takes.kept nodes read)⟩

/-- What is loaded after such a save is read from a table that has the settings merged into it. -/
theorem exists_run_load_of_replaced (anchored : Anchored w) (shown : text ≠ "")
    (held : w.store.read w.here p = .ok bytes) (decoded : Text.decodeText bytes = .ok old)
    (takes : TakesIn old settings t)
    (saved : (save settings (.ofText text)).run w = (.ok p, after))
    (short : ∀ location, after.store.locate after.here p = .ok location →
      (absolute location).text.utf8ByteSize ≤ Store.pathLimit) :
    ∃ merged, ((load (some text)).run after).1 = (ofTable merged).2.mapError .settings ∧
      (keysOf merged).Nodup ∧
      ∀ key, find? key merged = (find? key settings.toTable).or (find? key t) := by
  obtain ⟨new, stored, merged, read, found⟩ :=
    exists_overrides_of_run_save held decoded takes saved
  exact ⟨merged, run_load_of_run_save anchored shown saved stored
    (tableOf_of_readTable read) short, Toml.nodup_keysOf_of_readTable read, found⟩

/-- Settings that are saved over a document that takes them in are loaded with their own values,
and for each key that they leave unset with what the document holds at its top.  They come back
unchanged exactly when the document holds none of these keys. -/
theorem load_of_replaced_iff (anchored : Anchored w) (shown : text ≠ "")
    (held : w.store.read w.here p = .ok bytes) (decoded : Text.decodeText bytes = .ok old)
    (takes : TakesIn old settings t)
    (saved : (save settings (.ofText text)).run w = (.ok p, after))
    (short : ∀ location, after.store.locate after.here p = .ok location →
      (absolute location).text.utf8ByteSize ≤ Store.pathLimit) :
    (∀ loaded : Settings, ((load (some text)).run after).1 = .ok loaded ↔
      ∀ key : Key, find? key.name loaded.toTable =
        (find? key.name settings.toTable).or (find? key.name t)) ∧
      (((load (some text)).run after).1 = .ok settings ↔
        ∀ key : Key, settings.value? key = none → find? key.name t = none) := by
  obtain ⟨merged, read, distinct, found⟩ :=
    exists_run_load_of_replaced anchored shown held decoded takes saved short
  rw [read]
  refine ⟨fun loaded => ?_, ?_⟩
  · rw [← ofTable_eq_ok_iff_of_merged distinct found]
    exact mapError_eq_ok_iff
  · rw [← ofTable_eq_ok_self_iff_of_merged distinct found]
    exact mapError_eq_ok_iff

end Replacing

def tabledText : String :=
  "header_template = \"h.html\"\n[tool]\nx = 1\n"

def tabledTable : Table :=
  [("header_template", .string "h.html"), ("tool", .table [("x", .integer 1)])]

theorem readTable_tabledText : Toml.readTable tabledText = .ok tabledTable :=
  Toml.readTable_of_same (by decide +kernel)

theorem isKey_x : Toml.IsKey ("x".toList ++ [' ']) "x" :=
  Toml.isKey_bare (by decide) (List.all_eq_true.mp (by decide)) isSpace_blank

theorem isWritable_one : Text.isWritable 1 = true :=
  isWritable_of_small (by decide)

def toolEntry : Toml.Entry where
  indent := []
  spelling := "x ".toList
  space := [' ']
  value := Toml.writeInteger 1
  tail := []
  name := "x"
  content := .integer 1
  indented := Toml.isSpace_nil
  key := isKey_x
  spaced := isSpace_blank
  literal := Toml.isLiteral_writeInteger isWritable_one
  ended := Toml.isTail_nil

def tabledSections : List Section :=
  [Toml.bareSection ["tool"] false [⟨.field toolEntry.kept, true⟩] rfl]

theorem isSectioned_tabled : IsSectioned (headerRows.map Row.strip) tabledSections where
  ordered := isFlat_headerRows.orderly.ordered (.inr (List.forall_mem_singleton.mpr rfl))
  closed := Toml.areClosed_of_closed (by decide)
  kept f member := by
    rcases List.mem_cons.mp member with rfl | later
    · exact Toml.Layout.keeps_entry _
    · cases List.mem_singleton.mp later
      exact Toml.Layout.keeps_entry toolEntry
  single := by decide
  inOrder := by decide
  alike := by
    simp only [tabledSections, List.forall_mem_singleton]
    exact Toml.alike_bareParts ["tool"] ["tool"]
  once := by decide
  flush := by decide

/-- The default settings have neither of its keys. -/
theorem find?_tabledTable :
    ∀ name ∈ keysOf ({} : Settings).toTable, find? name tabledTable = none := by
  decide

theorem takesIn_tabled : TakesIn tabledText {} tabledTable :=
  .of_sectioned isSectioned_tabled (by decide) readTable_tabledText
    (fun name member => .inl (find?_tabledTable name member)) (by decide)

theorem isSome_readNodes?_tabledText :
    (Toml.Layout.readNodes? (Text.unifyBreaks tabledText.toList)).isSome = true := by
  decide +kernel

/-- Default settings that are saved over a header template and a table are loaded with that
template. -/
theorem load_of_replaced_tabled :
    ((save {} (.ofText "c.toml")).run (holding (Text.encodeText tabledText))).1 =
        .ok ⟨.here, ["c.toml"]⟩ ∧
      ((load (some "c.toml")).run
        ((save {} (.ofText "c.toml")).run (holding (Text.encodeText tabledText))).2).1 =
          .ok { headerTemplate := some "h.html" } := by
  obtain ⟨strips, body, headed, laid, plain⟩ := takesIn_tabled.headed
  obtain ⟨nodes, read⟩ := Option.isSome_iff_exists.mp isSome_readNodes?_tabledText
  obtain ⟨new, merged, -⟩ := exists_textOver headed laid readTable_tabledText read
    (plain nodes read) isWritable_of_mem_default
  obtain ⟨store, log, saved, led⟩ := exists_run_save_holding merged
  have short : ∀ location, store.locate [] ⟨.here, ["c.toml"]⟩ = .ok location →
      (absolute location).text.utf8ByteSize ≤ Store.pathLimit := by
    intro location there
    rw [led] at there
    cases there
    decide
  have anchored : Anchored (holding (Text.encodeText tabledText)) := ⟨.root, marked_home_default⟩
  rw [saved]
  refine ⟨rfl, (load_of_replaced_iff anchored (by decide) (read_holding _)
    (Text.decodeText_encodeText tabledText) takesIn_tabled saved short).1 _ |>.mpr fun key => ?_⟩
  cases key <;> rfl

/-! ## Writing the defaults for a command line -/

section Written

open CommandLine (Terminal Run)

variable {text old : String} {t after : Terminal η} {p : Path} {bytes : Bytes} {entries : Table}

theorem exists_run_save_of_run_doWrite {destination : Path} {force : Bool}
    (ran : (Run.doWrite destination force).run t = (.ok (), after)) :
    ∃ q, (save {} destination).run t.work = (.ok q, after.work) := by
  obtain ⟨present, first, asked, rest⟩ := exists_of_run_bind_ok ran
  have same : first.work = t.work := by
    have looked := (Run.run_of_run_work asked).1
    rw [Act.exists?, Act.run_inspect] at looked
    exact (Prod.mk.inj looked).2.symm
  split at rest
  · obtain ⟨_, told, _, stopped⟩ := exists_of_run_bind_ok rest
    cases stopped
  · obtain ⟨q, second, saved, said⟩ := exists_of_run_bind_ok rest
    refine ⟨q, ?_⟩
    rw [← same, Run.work_of_run_say said]
    exact (Run.run_of_run_work saved).1

/-- The keys that the defaults leave unset. -/
theorem value?_default_eq_none_iff {key : Key} : ({} : Settings).value? key = none ↔
    key ∈ [Key.headerTemplate, .footerTemplate, .docsBaseUrl] := by
  cases key <;> decide

/-- Defaults that are written by force over a settings file that takes them in are loaded as they
are exactly when that file holds neither a template nor an address. -/
theorem load_of_run_doWrite_iff (anchored : Anchored t.work) (shown : text ≠ "")
    (homely : homed t.work.home (.ofText text) = .ok p)
    (held : t.work.store.read t.work.here p = .ok bytes)
    (decoded : Text.decodeText bytes = .ok old) (takes : TakesIn old {} entries)
    (ran : (Run.doWrite (.ofText text) true).run t = (.ok (), after))
    (short : ∀ location, after.work.store.locate after.work.here p = .ok location →
      (absolute location).text.utf8ByteSize ≤ Store.pathLimit) :
    ((load (some text)).run after.work).1 = .ok {} ↔
      ∀ key ∈ [Key.headerTemplate, .footerTemplate, .docsBaseUrl],
        find? key.name entries = none := by
  obtain ⟨q, saved⟩ := exists_run_save_of_run_doWrite ran
  obtain ⟨_, _, _, _, again, -⟩ := exists_of_run_save_ok saved
  rw [homely] at again
  cases again
  obtain ⟨merged, read, distinct, found⟩ :=
    exists_run_load_of_replaced anchored shown held decoded takes saved short
  rw [read, mapError_eq_ok_iff, ofTable_eq_ok_self_iff_of_merged distinct found]
  exact forall_congr' fun key => imp_congr_left value?_default_eq_none_iff

end Written

end CommandDocs.Settings

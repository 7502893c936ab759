import CommandDocs.Proofs.Settings.Finding
import CommandDocs.Proofs.Settings.Overriding
import CommandDocs.Proofs.Settings.Saving
import CommandDocs.Proofs.Text.Utf8
import CommandDocs.Proofs.Toml.Flat.Edit

/-!
# Loading what has been saved

Settings that are saved over a flat document are written into it.  They are loaded with their own
values; a key that they leave unset has what the old document holds, if it holds anything.
-/

namespace CommandDocs.Settings

open Files (Path Bytes Location Store)
open Toml (Row IsFlat IsKey rowsText find? assignAll)
open Toml.Layout (Node Shows)

variable {η : Type}

/-! ## Writing settings into a flat document -/

/-- The names of the keys need no quotes. -/
theorem Key.isKey (key : Key) : IsKey (key.name.toList ++ [' ']) key.name := by
  refine Toml.isKey_bare ?_ ?_ ?_
  · cases key <;> decide
  · exact List.all_eq_true.mp (by cases key <;> decide)
  · exact List.all_eq_true.mp (by decide)

theorem Stored.isLiteral_written {value : Stored} (writable : value.isWritable = true) :
    Toml.IsLiteral value.written value.toValue := by
  cases value with
  | text s => exact Toml.isLiteral_writeString s
  | number n => exact Toml.isLiteral_writeInteger writable
  | texts items => exact Toml.isLiteral_writeStrings items

/-- Keys that are set one after the other are assigned one after the other. -/
theorem foldl_set_of_shown {entries : List (Key × Stored)}
    (writable : ∀ entry ∈ entries, entry.2.isWritable = true) {rows : List Row} {nodes : List Node}
    (flat : IsFlat rows) (shown : List.Forall₂ Shows rows nodes) :
    ∃ others, IsFlat others ∧
      List.Forall₂ Shows others (entries.foldl
        (fun done (key, value) => Toml.Layout.set key.name value.written done) nodes) ∧
      Toml.tableOf others = assignAll (Toml.tableOf rows)
        (entries.map fun (key, value) => (key.name, value.toValue)) := by
  induction entries generalizing rows nodes with
  | nil => exact ⟨rows, flat, shown, rfl⟩
  | cons entry entries ih =>
      obtain ⟨own, others⟩ := List.forall_mem_cons.mp writable
      obtain ⟨next, still, shows, grown⟩ :=
        Toml.Layout.set_of_shown entry.1.isKey (Stored.isLiteral_written own) flat shown
      obtain ⟨last, done, kept, table⟩ := ih others still shows
      refine ⟨last, done, kept, ?_⟩
      rw [table, grown]
      rfl

/-- Settings that can be written are written into a flat document.  They make a flat document, to
whose table they are assigned. -/
theorem textInto_of_shown {s : Settings} {rows : List Row} {nodes : List Node} (flat : IsFlat rows)
    (shown : List.Forall₂ Shows rows nodes)
    (writable : ∀ entry ∈ s.entries, entry.2.isWritable = true) :
    ∃ others, s.textInto nodes = .ok (String.ofList (rowsText others)) ∧ IsFlat others ∧
      Toml.tableOf others = assignAll (Toml.tableOf rows) s.toTable := by
  obtain ⟨others, still, shows, table⟩ := foldl_set_of_shown writable flat shown
  refine ⟨others, ?_, still, table⟩
  rw [← Toml.Layout.textOf_of_shown shows false, textInto]
  exact if_pos (List.all_eq_true.mpr writable)

theorem textOver_of_flat {s : Settings} {old : String} {rows : List Row} (flat : IsFlat rows)
    (laid : Text.unifyBreaks old.toList = rowsText rows)
    (writable : ∀ entry ∈ s.entries, entry.2.isWritable = true) :
    ∃ others, s.textOver (some old) = .ok (String.ofList (rowsText others)) ∧ IsFlat others ∧
      Toml.tableOf others = assignAll (Toml.tableOf rows) s.toTable := by
  obtain ⟨nodes, read, shown⟩ := Toml.Layout.readNodes?_rowsText flat
  have composed : s.textOver (some old) = s.textInto nodes := by
    simp only [textOver, laid, read]
  rw [composed]
  exact textInto_of_shown flat shown writable

/-- Only settings that can be written are written. -/
theorem writable_of_textOver {s : Settings} {old : Option String} {text : String}
    (made : s.textOver old = .ok text) : ∀ entry ∈ s.entries, entry.2.isWritable = true := by
  have all {nodes : List Node} (into : s.textInto nodes = .ok text) :
      ∀ entry ∈ s.entries, entry.2.isWritable = true := by
    unfold textInto at into
    split at into
    · rename_i writable
      exact List.all_eq_true.mp writable
    · cases into
  unfold textOver at made
  split at made
  · exact all made
  · split at made
    · cases made
    · exact all made

/-- Settings can be written when their two numbers can. -/
theorem isWritable_of_mem_entries {s : Settings} (width : Text.isWritable s.helpWidth = true)
    (timeout : Text.isWritable s.timeout = true) :
    ∀ entry ∈ s.entries, entry.2.isWritable = true := by
  intro entry member
  obtain ⟨key, -, held⟩ := List.mem_filterMap.mp member
  obtain ⟨value, given, rfl⟩ := Option.map_eq_some_iff.mp held
  cases key with
  | helpWidth =>
      cases given
      exact width
  | timeout =>
      cases given
      exact timeout
  | scriptExtension | bundleExtension | executable | exclude | inProgress =>
      cases given
      rfl
  | headerTemplate | footerTemplate | docsBaseUrl =>
      obtain ⟨text, -, rfl⟩ := Option.map_eq_some_iff.mp given
      rfl

/-- Numbers of up to three digits can be written. -/
theorem isWritable_of_small {n : Int} (small : n.natAbs < 10 ^ 3) : Text.isWritable n = true :=
  Toml.isWritable_iff.mpr
    (Nat.lt_of_lt_of_le small (Nat.pow_le_pow_right (by decide) (by decide)))

theorem isWritable_of_mem_default :
    ∀ entry ∈ ({} : Settings).entries, entry.2.isWritable = true :=
  isWritable_of_mem_entries (isWritable_of_small (by decide)) (isWritable_of_small (by decide))

theorem textOver_of_textFrom {s : Settings} {old : Option String} {text : String}
    (made : textFrom s old = .ok text) : s.textOver old = .ok text := by
  unfold textFrom at made
  cases merged : s.textOver old with
  | ok own =>
      rw [merged] at made
      cases made
      rfl
  | error fault =>
      rw [merged] at made
      cases fault <;> cases made

/-- A save over a document, with the files as they are at each step. -/
theorem exists_run_save_merged {s : Settings} {destination p temporary : Path} {w : Workspace η}
    {middle : Store} {written store : Bytes → Store} {old new : String}
    (homely : homed w.home destination = .ok p) (named : p.withExtension? ".tmp" = some temporary)
    (parents : (makeParents p).run w = (.ok (), { w with store := middle }))
    (held : middle.read w.here p = .ok (Text.encodeText old))
    (merged : s.textOver (some old) = .ok new)
    (wrote : ∀ bytes, middle.write w.here temporary bytes = .ok (written bytes))
    (moved : ∀ bytes, (written bytes).rename w.here temporary p = .ok (store bytes)) :
    ∃ log, (save s destination).run w =
      (.ok p, { w with store := store (Text.encodeText new), log }) := by
  have expanded := run_expandHome destination w
  rw [homely] at expanded
  have found : oldTextAt middle w.here p = .ok (some old) := by
    simp only [oldTextAt, Store.exists?_of_read held, held, Text.decodeText_encodeText]
  have made : (oldTextAt middle w.here p).bind (textFrom s) = .ok new := by
    rw [found]
    simp only [Except.bind, textFrom, merged]
  have saved := run_saveBy_of_moved parents made (wrote _) (moved _)
  exact ⟨_, run_save_of_saved expanded named saved⟩

/-- A save over a flat document, with the files as they are at each step. -/
theorem exists_run_save_over {s : Settings} {destination p temporary : Path} {w : Workspace η}
    {middle : Store} {written store : Bytes → Store} {old : String} {rows : List Row}
    (homely : homed w.home destination = .ok p) (named : p.withExtension? ".tmp" = some temporary)
    (parents : (makeParents p).run w = (.ok (), { w with store := middle }))
    (held : middle.read w.here p = .ok (Text.encodeText old)) (flat : IsFlat rows)
    (laid : Text.unifyBreaks old.toList = rowsText rows)
    (writable : ∀ entry ∈ s.entries, entry.2.isWritable = true)
    (wrote : ∀ bytes, middle.write w.here temporary bytes = .ok (written bytes))
    (moved : ∀ bytes, (written bytes).rename w.here temporary p = .ok (store bytes)) :
    ∃ others log, (save s destination).run w = (.ok p, { w with
        store := store (Text.encodeText (String.ofList (rowsText others))), log }) ∧
      IsFlat others ∧ Toml.tableOf others = assignAll (Toml.tableOf rows) s.toTable := by
  obtain ⟨others, merged, still, table⟩ := textOver_of_flat flat laid writable
  obtain ⟨log, saved⟩ := exists_run_save_merged homely named parents held merged wrote moved
  exact ⟨others, log, saved, still, table⟩

/-! ## Loading -/

theorem tableOf_of_readTable {text : String} {t : Toml.Table} (valid : Toml.readTable text = .ok t) :
    tableOf (Text.encodeText text) = .ok t := by
  rw [tableOf, Text.decodeText_encodeText]
  simp only [valid]

theorem tableOf_rowsText {rows : List Row} (flat : IsFlat rows) :
    tableOf (Text.encodeText (String.ofList (rowsText rows))) = .ok (Toml.tableOf rows) :=
  tableOf_of_readTable (Toml.readTable_rowsText flat)

section Reloading

variable {settings : Settings} {text old : String} {w after : Workspace η} {p : Path}
  {bytes : Bytes} {rows : List Row}

/-- A save leaves a workspace anchored, with the file that it has saved. -/
theorem after_of_run_save (anchored : Anchored w)
    (saved : (save settings (.ofText text)).run w = (.ok p, after)) :
    Anchored after ∧ homed after.home (.ofText text) = .ok p := by
  obtain ⟨middle, store, written, log, homely, extended, -, same, -, rfl⟩ :=
    exists_of_run_save_ok saved
  refine ⟨anchored.mono (fun location standing => ?_) rfl rfl, homely⟩
  exact same.keeps location (extended.keepsDirectories location standing)

theorem run_load_of_run_save (anchored : Anchored w) (shown : text ≠ "")
    (saved : (save settings (.ofText text)).run w = (.ok p, after))
    (stored : after.store.read after.here p = .ok bytes) {entries : Toml.Table}
    (read : tableOf bytes = .ok entries)
    (short : ∀ location, after.store.locate after.here p = .ok location →
      (absolute location).text.utf8ByteSize ≤ Store.pathLimit) :
    ((load (some text)).run after).1 = (ofTable entries).2.mapError .settings := by
  obtain ⟨there, homely⟩ := after_of_run_save anchored saved
  obtain ⟨location, led, standing⟩ := Store.read_eq_ok_iff.mp stored
  rw [run_load_of_stored there shown homely led standing read, if_pos (short location led)]

theorem exists_textOver_of_run_save (held : w.store.read w.here p = .ok bytes)
    (decoded : Text.decodeText bytes = .ok old)
    (saved : (save settings (.ofText text)).run w = (.ok p, after)) :
    ∃ new, settings.textOver (some old) = .ok new ∧
      after.store.read after.here p = .ok (Text.encodeText new) := by
  obtain ⟨middle, store, written, log, homely, extended, made, same, stored, rfl⟩ :=
    exists_of_run_save_ok saved
  have found : oldTextAt middle w.here p = .ok (some old) := by
    have again := extended.read held
    simp only [oldTextAt, Store.exists?_of_read again, again, decoded]
  rw [found] at made
  exact ⟨written, textOver_of_textFrom made, stored⟩

end Reloading

/-- A workspace with a settings file and nothing else. -/
def holding (bytes : Bytes) : Workspace Unit where
  store := ⟨[(["c.toml"], .file bytes)]⟩
  host := ()

theorem read_holding (bytes : Bytes) :
    (holding bytes).store.read (holding bytes).here ⟨.here, ["c.toml"]⟩ = .ok bytes :=
  Store.read_eq_ok_iff.mpr ⟨["c.toml"], Store.locate_of_walk (by decide) (by decide) rfl, rfl⟩

/-- What can be written over the one file of a workspace is saved. -/
theorem exists_run_save_holding {s : Settings} {old new : String}
    (merged : s.textOver (some old) = .ok new) :
    ∃ store log, (save s (.ofText "c.toml")).run (holding (Text.encodeText old)) =
      (.ok ⟨.here, ["c.toml"]⟩, { holding (Text.encodeText old) with store, log }) ∧
        store.locate [] ⟨.here, ["c.toml"]⟩ = .ok ["c.toml"] := by
  have homely (bytes : Bytes) :
      homed (holding bytes).home (.ofText "c.toml") = .ok ⟨.here, ["c.toml"]⟩ := rfl
  have named : Path.withExtension? ⟨.here, ["c.toml"]⟩ ".tmp" = some ⟨.here, ["c.tmp"]⟩ := rfl
  have led (s : Store) : s.locate [] ⟨.here, ["c.toml"]⟩ = .ok ["c.toml"] :=
    Store.locate_of_walk (by decide) (by decide) rfl
  have beside (s : Store) : s.locate [] ⟨.here, ["c.tmp"]⟩ = .ok ["c.tmp"] :=
    Store.locate_of_walk (by decide) (by decide) rfl
  have wrote (bytes more : Bytes) : (holding bytes).store.write (holding bytes).here
      ⟨.here, ["c.tmp"]⟩ more = .ok ((holding bytes).store.put ["c.tmp"] (.file more)) := by
    have vacant : (holding bytes).store.at? ["c.tmp"] = none := rfl
    exact Store.write_eq_ok_iff.mpr ⟨_, beside _, by simp [vacant], rfl⟩
  have moved (bytes more : Bytes) : ((holding bytes).store.put ["c.tmp"] (.file more)).rename
      (holding bytes).here ⟨.here, ["c.tmp"]⟩ ⟨.here, ["c.toml"]⟩ =
        .ok ⟨[(["c.toml"], .file more)]⟩ := by
    have standing : ((holding bytes).store.put ["c.tmp"] (.file more)).at? ["c.toml"] =
      some (.file bytes) := rfl
    exact Store.rename_eq_ok (beside _) (led _) rfl (by simp [standing])
  obtain ⟨log, saved⟩ := exists_run_save_merged (homely _) named (run_makeParents_name rfl)
    (read_holding _) merged (wrote _) (moved _)
  exact ⟨_, log, saved, led _⟩

def headerText : String :=
  "header_template = \"h.html\"\n"

def headerRows : List Row :=
  [⟨.entry (Toml.Layout.newEntryOf (Key.isKey .headerTemplate)
    (Toml.isLiteral_writeString "h.html")), true⟩]

def headed : Workspace Unit where
  store := ⟨[(["c.toml"], .file (Text.encodeText headerText))]⟩
  host := ()

theorem isFlat_headerRows : IsFlat headerRows where
  orderly := by
    intro empty
    cases empty
  distinct := List.nodup_singleton _

theorem unifyBreaks_headerText : Text.unifyBreaks headerText.toList = rowsText headerRows := by
  decide

end CommandDocs.Settings

import CommandDocs.Proofs.Settings.Reloading

/-!
# Settings saved to a new file

Settings that are saved where no file stood are loaded as they were, without a warning.  Two things
can come between: the directories that a save makes may open the way to an older file, and the
absolute form of a path may be too long to be asked for.
-/

namespace CommandDocs.Settings

open Files (Path Bytes Location Store)
open Toml (Row IsFlat rowsText keysOf assignAll isSpace_nil)
open Toml.Layout (Shows)

variable {η : Type}

/-! ## A new document -/

theorem isWords_newFile : Toml.IsWords " helpdoc configuration".toList := by
  simp [Toml.IsWords, Toml.isIllegal]

def newRows : List Row :=
  [⟨.remark [] " helpdoc configuration".toList isSpace_nil isWords_newFile, true⟩]

theorem shown_newFile : List.Forall₂ Shows newRows newFile :=
  .cons (.remark _ _ _ _ true) .nil

theorem isFlat_newRows : IsFlat newRows where
  orderly := by
    intro empty
    cases empty
  distinct := List.nodup_nil

/-- The table of settings gives them back, and nothing in it is ignored. -/
theorem ofTable_assignAll_nil (s : Settings) : ofTable (assignAll [] s.toTable) = ([], .ok s) := by
  refine Prod.ext (override_fst_of_known ?_ {}) ?_
  · intro name member
    rcases Toml.mem_keysOf_assignAll.mp member with impossible | own
    · cases impossible
    · exact exists_key_of_mem_toTable own
  · have distinct : (keysOf []).Nodup := List.nodup_nil
    exact (ofTable_assignAll_eq_ok_self_iff distinct).mpr fun _ _ => rfl

/-! ## Saving and loading -/

section Fresh

variable {settings : Settings} {text : String} {w after : Workspace η} {p : Path}

/-- A save that gives a path was given one. -/
theorem ne_empty_of_run_save_ok (saved : (save settings (.ofText text)).run w = (.ok p, after)) :
    text ≠ "" := by
  rintro rfl
  have expanded := run_expandHome (.ofText "") w
  have homely : homed w.home (.ofText "") = .ok {} := by rfl
  rw [homely] at expanded
  rw [run_save_of_nameless expanded rfl] at saved
  cases saved

theorem exists_file_of_oldTextAt {s : Store} {here : Location} {old : String}
    (found : oldTextAt s here p = .ok (some old)) :
    ∃ location bytes, s.locate here p = .ok location ∧ s.at? location = some (.file bytes) := by
  unfold oldTextAt at found
  split at found
  · cases found
  · cases found
  · split at found
    · cases found
    · rename_i bytes held
      obtain ⟨location, led, standing⟩ := Store.read_eq_ok_iff.mp held
      exact ⟨location, bytes, led, standing⟩

theorem exists_stored_of_saved (anchored : Anchored w)
    (saved : (save settings (.ofText text)).run w = (.ok p, after))
    (fresh : ∀ location, after.store.locate after.here p = .ok location →
      ∀ bytes, w.store.at? location ≠ some (.file bytes)) :
    Anchored after ∧ homed after.home (.ofText text) = .ok p ∧
      ∃ location bytes, after.store.locate after.here p = .ok location ∧
        after.store.at? location = some (.file bytes) ∧
        tableOf bytes = .ok (assignAll [] settings.toTable) := by
  obtain ⟨middle, store, written, log, homely, extended, made, same, stored, rfl⟩ :=
    exists_of_run_save_ok saved
  have vacant : oldTextAt middle w.here p = .ok none := by
    cases found : oldTextAt middle w.here p with
    | error failure =>
        rw [found] at made
        cases made
    | ok old =>
        cases old with
        | none => rfl
        | some old =>
            -- a file that stood there after the directories were made stood there before
            obtain ⟨location, bytes, led, standing⟩ := exists_file_of_oldTextAt found
            have before := (extended.sameFiles (fun _ => False) location id bytes).mpr standing
            exact (fresh location (Store.locate_eq_ok_of_sameDirectories same led) bytes
              before).elim
  simp only [vacant, Except.bind] at made
  have composed := textOver_of_textFrom made
  obtain ⟨rows, laid, flat, table⟩ :=
    textInto_of_shown isFlat_newRows shown_newFile (writable_of_textOver composed)
  rw [textOver, laid] at composed
  cases composed
  obtain ⟨there, -⟩ := after_of_run_save anchored saved
  obtain ⟨location, led, standing⟩ := Store.read_eq_ok_iff.mp stored
  refine ⟨there, homely, location, _, led, standing, ?_⟩
  rw [tableOf_rowsText flat, table]
  rfl

end Fresh

/-! ## Saving in the working directory -/

section Here

variable {settings : Settings} {w : Workspace η}

/-- Settings that can be written are saved in a working directory where neither the file nor the
temporary one stands. -/
theorem exists_run_save_here (standing : w.store.at? w.here = some .directory)
    (free : w.store.at? (w.here ++ ["c.toml"]) = none)
    (spare : w.store.at? (w.here ++ ["c.tmp"]) = none)
    (writable : ∀ entry ∈ settings.entries, entry.2.isWritable = true) :
    ∃ after, (save settings (.ofText "c.toml")).run w = (.ok ⟨.here, ["c.toml"]⟩, after) ∧
      after.here = w.here ∧
      after.store.locate after.here ⟨.here, ["c.toml"]⟩ = .ok (w.here ++ ["c.toml"]) := by
  have expanded := run_expandHome (.ofText "c.toml") w
  have homely : homed w.home (.ofText "c.toml") = .ok ⟨.here, ["c.toml"]⟩ := rfl
  have named : Path.withExtension? ⟨.here, ["c.toml"]⟩ ".tmp" = some ⟨.here, ["c.tmp"]⟩ := rfl
  have own : Store.IsName "c.toml" := by decide
  have other : Store.IsName "c.tmp" := by decide
  have led {s : Store} (still : s.at? w.here = some .directory) :
      s.locate w.here ⟨.here, ["c.toml"]⟩ = .ok (w.here ++ ["c.toml"]) :=
    Store.locate_name still own (Store.contains_null_eq_false (by decide))
  have beside {s : Store} (still : s.at? w.here = some .directory) :
      s.locate w.here ⟨.here, ["c.tmp"]⟩ = .ok (w.here ++ ["c.tmp"]) :=
    Store.locate_name still other (Store.contains_null_eq_false (by decide))
  have vacant : oldTextAt w.store w.here ⟨.here, ["c.toml"]⟩ = .ok none := by
    rw [oldTextAt, Store.exists?_of_vacant (led standing) free]
  obtain ⟨rows, laid, -, -⟩ := textInto_of_shown isFlat_newRows shown_newFile writable
  have made : (oldTextAt w.store w.here ⟨.here, ["c.toml"]⟩).bind (textFrom settings) =
      .ok (String.ofList (rowsText rows)) := by
    rw [vacant]
    simp only [Except.bind, textFrom, textOver, laid]
  have apart : w.here ++ ["c.toml"] ≠ w.here ++ ["c.tmp"] := by simp
  have below : w.here ++ ["c.tmp"] ≠ [] := by simp
  have wrote : w.store.write w.here ⟨.here, ["c.tmp"]⟩
      (Text.encodeText (String.ofList (rowsText rows))) = .ok _ :=
    Store.write_eq_ok_iff.mpr ⟨_, beside standing, by simp [spare], rfl⟩
  have still := ((Store.frame_of_write wrote).1 w.here).mp standing
  have moved := Store.rename_eq_ok (beside still) (led still)
    (Store.at?_put_self _ below _) (by simp [Store.at?_put_of_ne _ apart, free])
  have done := run_save_of_saved (by rw [expanded, homely]) named
    (run_saveBy_of_moved (run_makeParents_name standing) made wrote moved)
  refine ⟨_, done, rfl, led ?_⟩
  exact ((Store.frame_of_rename moved).1 w.here).mp still

end Here

/-! ## Paths at which nothing is found -/

theorem utf8ByteSize_text_absolute {location : Location} (below : location ≠ []) :
    (absolute location).text.utf8ByteSize =
      (location.map fun name => name.utf8ByteSize + 1).sum := by
  have joined := Path.utf8ByteSize_intercalate below
  have text : (absolute location).text = "/" ++ "/".intercalate location := rfl
  rw [text, String.utf8ByteSize_append, ← joined, Nat.add_comm]
  rfl

/-- A workspace whose working directory lies below as many directories of one name. -/
def deep (depth : Nat) : Workspace Unit where
  store := ⟨(List.range depth).map fun above => (List.replicate (above + 1) "aa", .directory)⟩
  here := List.replicate depth "aa"
  host := ()

section Deep

variable {depth : Nat}

theorem at?_deep {above : Nat} (bound : above ≤ depth) :
    (deep depth).store.at? (List.replicate above "aa") = some .directory := by
  cases above with
  | zero => rfl
  | succ above =>
      have below : List.replicate (above + 1) "aa" ≠ [] := by simp
      rw [Store.at?_of_ne_nil _ below]
      cases found : (deep depth).store.entries.find?
          fun e => e.1 == List.replicate (above + 1) "aa" with
      | none =>
          have missed := List.find?_eq_none.mp found (List.replicate (above + 1) "aa", .directory)
            (List.mem_map.mpr ⟨above, List.mem_range.mpr bound, rfl⟩)
          simp at missed
      | some e =>
          obtain ⟨_, _, rfl⟩ := List.mem_map.mp (List.mem_of_find?_eq_some found)
          rfl

theorem at?_below_deep {name : String} (other : name ≠ "aa") :
    (deep depth).store.at? (List.replicate depth "aa" ++ [name]) = none := by
  have below : List.replicate depth "aa" ++ [name] ≠ [] := by simp
  rw [Store.at?_of_ne_nil _ below, Option.map_eq_none_iff, List.find?_eq_none]
  rintro e member same
  obtain ⟨above, _, rfl⟩ := List.mem_map.mp member
  have names : List.replicate (above + 1) "aa" = List.replicate depth "aa" ++ [name] :=
    eq_of_beq same
  have own : name ∈ List.replicate (above + 1) "aa" := by
    rw [names]
    simp
  exact other (List.eq_of_mem_replicate own)

theorem reached_deep {above : Nat} (bound : above ≤ depth) :
    (deep depth).store.Reached (List.replicate above "aa") := by
  induction above with
  | zero => exact .root
  | succ above ih =>
      have smaller := Nat.le_of_succ_le bound
      rw [List.replicate_succ']
      exact (ih smaller).child (at?_deep smaller) (by decide)
        (Store.contains_null_eq_false (by decide))

theorem utf8ByteSize_deep :
    (absolute (List.replicate depth "aa" ++ ["c.toml"])).text.utf8ByteSize = depth * 3 + 7 := by
  have names : "aa".utf8ByteSize = 2 ∧ "c.toml".utf8ByteSize = 6 := by decide
  rw [utf8ByteSize_text_absolute (by simp), List.map_append, List.map_replicate, List.sum_append,
    List.sum_replicate_nat, names.1]
  simp [names.2]

theorem anchored_deep : Anchored (deep depth) where
  here := reached_deep (Nat.le_refl depth)
  home := marked_home_default

/-- Default settings that are saved in a directory that is too deep are there, but cannot be asked
for. -/
theorem exists_run_load_deep (long : Store.pathLimit < depth * 3 + 7) :
    (deep depth).store.exists? (deep depth).here ⟨.here, ["c.toml"]⟩ = .ok false ∧
      ∃ after, (save {} (.ofText "c.toml")).run (deep depth) = (.ok ⟨.here, ["c.toml"]⟩, after) ∧
        ((load (some "c.toml")).run after).1 ≠ .ok {} := by
  have place : (deep depth).here = List.replicate depth "aa" := rfl
  have standing := at?_deep (Nat.le_refl depth)
  have free : (deep depth).store.at? ((deep depth).here ++ ["c.toml"]) = none :=
    at?_below_deep (by decide)
  obtain ⟨after, saved, here, led⟩ := exists_run_save_here standing free
    (at?_below_deep (by decide)) isWritable_of_mem_default
  have fresh : ∀ location, after.store.locate after.here ⟨.here, ["c.toml"]⟩ = .ok location →
      ∀ bytes, (deep depth).store.at? location ≠ some (.file bytes) := by
    intro location there bytes
    rw [led] at there
    cases there
    simp [free]
  obtain ⟨there, homely, location, bytes, found, stored, read⟩ :=
    exists_stored_of_saved anchored_deep saved fresh
  rw [led] at found
  cases found
  refine ⟨Store.exists?_of_vacant ?_ free, after, saved, ?_⟩
  · exact Store.locate_name standing (by decide) (Store.contains_null_eq_false (by decide))
  · rw [run_load_of_stored there (by decide) homely led stored read, if_neg]
    · simp
    · rw [place, utf8ByteSize_deep]
      exact Nat.not_le.mpr long

end Deep

theorem anchored_headed : Anchored headed where
  here := .root
  home := marked_home_default

/-- Default settings that are assigned to a header template are not read as they were. -/
theorem ofTable_header_ne :
    (ofTable (assignAll (Toml.tableOf headerRows) ({} : Settings).toTable)).2 ≠ .ok {} := by
  intro same
  have distinct : (keysOf (Toml.tableOf headerRows)).Nodup := List.nodup_singleton _
  have kept := (ofTable_assignAll_eq_ok_self_iff distinct).mp same .headerTemplate rfl
  rw [show Toml.tableOf headerRows = [(Key.headerTemplate.name, .string "h.html")] from rfl,
    Toml.find?_cons_self] at kept
  cases kept

/-- A path through a directory that is not there leads nowhere. -/
theorem locate_headed {rest : List String} (clean : ∀ part ∈ rest, '\x00' ∉ part.toList)
    (short : (Path.text ⟨.here, "x" :: rest⟩).utf8ByteSize ≤ Store.pathLimit) (shown : rest ≠ []) :
    headed.store.locate headed.here ⟨.here, "x" :: rest⟩ = .error .missing := by
  refine Store.locate_of_walk (List.forall_mem_cons.mpr ⟨by decide, clean⟩) short ?_
  obtain ⟨part, rest, rfl⟩ := List.exists_cons_of_ne_nil shown
  rfl

/-- The directory that is not there is made on the way to its parent. -/
theorem makeDirectories_headed : headed.store.makeDirectories headed.here ⟨.here, ["x", ".."]⟩ =
    (headed.store.put ["x"] .directory, none) := by
  have lost : headed.store.locate headed.here ⟨.here, ["x", ".."]⟩ = .error .missing :=
    locate_headed (by decide) (by decide) (by decide)
  have name (s : Store) : s.locate headed.here ⟨.here, ["x"]⟩ = .ok ["x"] :=
    Store.locate_of_walk (by decide) (by decide) rfl
  have back : (headed.store.put ["x"] .directory).locate headed.here ⟨.here, ["x", ".."]⟩ =
      .ok [] :=
    Store.locate_of_walk (by decide) (by decide) rfl
  have vacant : headed.store.at? ["x"] = none := rfl
  have root (s : Store) : s.at? [] = some .directory := rfl
  simp [Store.makeDirectories, Store.makeParents, Store.makeUnless, Store.makeOne,
    Store.isDirectory, Store.probe, Store.look, lost, name, back, vacant, root, bind, Except.bind,
    Except.map, Files.Fault.isRefusal]

theorem rename_headed (bytes : Bytes) :
    ((headed.store.put ["x"] .directory).put ["c.tmp"] (.file bytes)).rename headed.here
      ⟨.here, ["x", "..", "c.tmp"]⟩ ⟨.here, ["x", "..", "c.toml"]⟩ =
        .ok ⟨[(["c.toml"], .file bytes), (["x"], .directory)]⟩ := by
  generalize added : (headed.store.put ["x"] .directory).put ["c.tmp"] (.file bytes) = s
  have beside : s.locate headed.here ⟨.here, ["x", "..", "c.tmp"]⟩ = .ok ["c.tmp"] := by
    rw [← added]
    exact Store.locate_of_walk (by decide) (by decide) rfl
  have around : s.locate headed.here ⟨.here, ["x", "..", "c.toml"]⟩ = .ok ["c.toml"] := by
    rw [← added]
    exact Store.locate_of_walk (by decide) (by decide) rfl
  have standing : s.at? ["c.toml"] = some (.file (Text.encodeText headerText)) := by
    rw [← added]
    rfl
  have fresh : s.at? ["c.tmp"] = some (.file bytes) := by
    rw [← added]
    rfl
  rw [Store.rename_eq_ok beside around fresh (by simp [standing]), ← added]
  rfl

/-- Default settings that are saved by way of a directory yet to be made come upon an older
file. -/
theorem exists_run_load_around :
    headed.store.exists? headed.here ⟨.here, ["x", "..", "c.toml"]⟩ = .ok false ∧
      ∃ after, (save {} (.ofText "x/../c.toml")).run headed =
          (.ok ⟨.here, ["x", "..", "c.toml"]⟩, after) ∧
        ((load (some "x/../c.toml")).run after).1 ≠ .ok {} := by
  have homely : homed headed.home (.ofText "x/../c.toml") =
      .ok ⟨.here, ["x", "..", "c.toml"]⟩ := rfl
  have named : Path.withExtension? ⟨.here, ["x", "..", "c.toml"]⟩ ".tmp" =
      some ⟨.here, ["x", "..", "c.tmp"]⟩ := rfl
  have parents : (makeParents ⟨.here, ["x", "..", "c.toml"]⟩).run headed =
      (.ok (), { headed with store := headed.store.put ["x"] .directory }) := by
    unfold makeParents
    rw [run_bind_of_ok (Act.run_get headed)]
    simp only [show Path.parent ⟨.here, ["x", "..", "c.toml"]⟩ = ⟨.here, ["x", ".."]⟩ from rfl,
      makeDirectories_headed]
    rfl
  have held : (headed.store.put ["x"] .directory).read headed.here ⟨.here, ["x", "..", "c.toml"]⟩ =
      .ok (Text.encodeText headerText) :=
    Store.read_eq_ok_iff.mpr
      ⟨["c.toml"], Store.locate_of_walk (by decide) (by decide) rfl, rfl⟩
  have wrote (bytes : Bytes) : (headed.store.put ["x"] .directory).write headed.here
      ⟨.here, ["x", "..", "c.tmp"]⟩ bytes =
        .ok ((headed.store.put ["x"] .directory).put ["c.tmp"] (.file bytes)) :=
    Store.write_eq_ok_iff.mpr
      ⟨["c.tmp"], Store.locate_of_walk (by decide) (by decide) rfl, by decide, rfl⟩
  have led (bytes : Bytes) : Store.locate ⟨[(["c.toml"], .file bytes), (["x"], .directory)]⟩
      headed.here ⟨.here, ["x", "..", "c.toml"]⟩ = .ok ["c.toml"] :=
    Store.locate_of_walk (by decide) (by decide) rfl
  have standing (bytes : Bytes) : Store.at? ⟨[(["c.toml"], .file bytes), (["x"], .directory)]⟩
      ["c.toml"] = some (.file bytes) := rfl
  obtain ⟨others, log, saved, flat, table⟩ := exists_run_save_over homely named parents held
    isFlat_headerRows unifyBreaks_headerText isWritable_of_mem_default wrote rename_headed
  have lost : headed.store.locate headed.here ⟨.here, ["x", "..", "c.toml"]⟩ = .error .missing :=
    locate_headed (by decide) (by decide) (by decide)
  have absent : headed.store.exists? headed.here ⟨.here, ["x", "..", "c.toml"]⟩ = .ok false := by
    rw [Store.exists?, Store.probe, Store.look, lost]
    rfl
  refine ⟨absent, _, saved, fun loaded => ?_⟩
  have there : Anchored { headed with
      store := ⟨[(["c.toml"], .file (Text.encodeText (String.ofList (rowsText others)))),
        (["x"], .directory)]⟩
      log } := ⟨.root, anchored_headed.home⟩
  rw [run_load_of_stored there (by decide) homely (led _) (standing _) (tableOf_rowsText flat),
    if_pos (by decide), table] at loaded
  have read : (ofTable (assignAll (Toml.tableOf headerRows) ({} : Settings).toTable)).2.mapError
      Failure.settings = .ok {} := loaded
  exact ofTable_header_ne (mapError_eq_ok_iff.mp read)

/-- Where nothing is found at a path, settings that are saved there need not be loaded as they
were: an older file may come to light, and the absolute path may be too long. -/
theorem not_load_of_saved_absent :
    (Anchored headed ∧
      headed.store.exists? headed.here ⟨.here, ["x", "..", "c.toml"]⟩ = .ok false ∧
      ∃ after, (save {} (.ofText "x/../c.toml")).run headed =
          (.ok ⟨.here, ["x", "..", "c.toml"]⟩, after) ∧
        ((load (some "x/../c.toml")).run after).1 ≠ .ok {}) ∧
    Anchored (deep 1364) ∧
      (deep 1364).store.exists? (deep 1364).here ⟨.here, ["c.toml"]⟩ = .ok false ∧
      ∃ after, (save {} (.ofText "c.toml")).run (deep 1364) = (.ok ⟨.here, ["c.toml"]⟩, after) ∧
        ((load (some "c.toml")).run after).1 ≠ .ok {} :=
  ⟨⟨anchored_headed, exists_run_load_around⟩, anchored_deep, exists_run_load_deep (by decide)⟩

section Fresh

variable {settings : Settings} {text : String} {w after : Workspace η} {p : Path}

/-- Settings that are saved where no file stood are loaded unchanged and without a warning.  Only an
absolute path that is too long keeps them from being loaded. -/
theorem load_of_saved_fresh (anchored : Anchored w)
    (saved : (save settings (.ofText text)).run w = (.ok p, after))
    (fresh : ∀ location, after.store.locate after.here p = .ok location →
      ∀ bytes, w.store.at? location ≠ some (.file bytes)) :
    ∃ location, after.store.locate after.here p = .ok location ∧
      (load (some text)).run after =
        if (absolute location).text.utf8ByteSize ≤ Store.pathLimit then
          (.ok settings, { after with
            log := after.log ++
              [⟨.debug, "Loaded config from: " ++ (absolute location).text⟩] })
        else (.error (.file ⟨.nameTooLong, (absolute location).text⟩), after) := by
  obtain ⟨there, homely, location, bytes, led, standing, read⟩ :=
    exists_stored_of_saved anchored saved fresh
  have loaded := run_load_of_stored there (ne_empty_of_run_save_ok saved) homely led standing read
  rw [ofTable_assignAll_nil] at loaded
  exact ⟨location, led, loaded⟩

end Fresh

def blank : Workspace Unit where
  host := ()

/-- Settings with quotes, backslashes, control characters and a character beyond the first plane. -/
def intricate : Settings where
  scriptExtension := "p\"s\\1"
  helpWidth := -7
  headerTemplate := some "a\r\n\tb\x7f"
  exclude := ["Get-*, \"x\"", "", "😀 ' = # ["]

theorem load_of_saved_fresh_intricate :
    ∃ after, (save intricate (.ofText "c.toml")).run blank = (.ok ⟨.here, ["c.toml"]⟩, after) ∧
      blank.store.at? ["c.toml"] = none ∧
      (load (some "c.toml")).run after = (.ok intricate, { after with
        log := after.log ++ [⟨.debug, "Loaded config from: /c.toml"⟩] }) := by
  have anchored : Anchored blank := ⟨.root, marked_home_default⟩
  have writable : ∀ entry ∈ intricate.entries, entry.2.isWritable = true :=
    isWritable_of_mem_entries (isWritable_of_small (by decide)) (isWritable_of_small (by decide))
  have standing : blank.store.at? blank.here = some .directory := rfl
  obtain ⟨after, saved, here, led⟩ := exists_run_save_here standing rfl rfl writable
  have fresh : ∀ location, after.store.locate after.here ⟨.here, ["c.toml"]⟩ = .ok location →
      ∀ bytes, blank.store.at? location ≠ some (.file bytes) := by
    intro location there bytes standing
    rw [led] at there
    cases there
    cases standing
  refine ⟨after, saved, rfl, ?_⟩
  obtain ⟨location, found, loaded⟩ := load_of_saved_fresh anchored saved fresh
  rw [led] at found
  cases found
  exact loaded

end CommandDocs.Settings

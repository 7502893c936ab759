import CommandDocs.Proofs.Files.Reached
import CommandDocs.Proofs.Workspace.Running
import CommandDocs.Settings.File

/-!
# Finding and loading a settings file

A settings file that is named is looked for under the absolute form of its path.  From a working
directory that is reached, this form leads where the path leads.  What is found there is loaded as
the settings of its table.
-/

namespace CommandDocs.Settings

open Files (Path Bytes Location Store)

variable {η : Type}

/-! ## The home directory -/

theorem run_expandHome (p : Path) (w : Workspace η) :
    (expandHome p).run w = (homed w.home p, w) := by
  unfold expandHome
  rw [run_bind_of_ok (Act.run_get w), Act.run_ofExcept]

/-- With a home directory in it a path is the same, or it stands in that directory. -/
theorem homed_eq_ok {homes : Homes} {p q : Path} (found : homed homes p = .ok q) :
    q = p ∨ ∃ part rest name home, p.parts = part :: rest ∧ homes.find? name = some home ∧
      q = ⟨.root, home ++ rest⟩ := by
  unfold homed at found
  split at found
  · rename_i part rest start parts
    split at found
    · split at found
      · cases found
      · split at found
        · rename_i name tilde clean home held
          exact Or.inr ⟨part, rest, _, home, parts, held, (Except.ok.inj found).symm⟩
        · cases found
    · exact Or.inl (Except.ok.inj found).symm
  · exact Or.inl (Except.ok.inj found).symm

/-! ## Absolute paths -/

/-- Parts that a walk does not pass over. -/
def Marked (parts : List String) : Prop :=
  ∀ part ∈ parts, part ≠ "" ∧ part ≠ "."

theorem marked_partsOf (s : List Char) : Marked (Path.partsOf s) := by
  intro part member
  obtain ⟨piece, among, rfl⟩ := List.mem_map.mp member
  have shown := (List.mem_filter.mp among).2
  simp only [Bool.and_eq_true, bne_iff_ne] at shown
  obtain ⟨filled, dark⟩ := shown
  constructor
  · intro empty
    exact filled (String.ofList_injective empty)
  · intro dot
    exact dark (String.ofList_injective dot)

theorem marked_of_reached {s : Store} {location : Location}
    (reached : s.Reached location) : Marked location :=
  fun name member => ⟨(reached.isName name member).shown, (reached.isName name member).dot⟩

/-- A workspace whose working directory is reached, and whose home directories have names without
parts that are passed over. -/
structure Anchored (w : Workspace η) : Prop where
  here : w.store.Reached w.here
  home : ∀ name home, w.home.find? name = some home → Marked home

/-- More directories leave a workspace anchored. -/
theorem Anchored.mono {v w : Workspace η} (anchored : Anchored w)
    (kept : w.store.KeepsDirectories v.store) (here : v.here = w.here) (home : v.home = w.home) :
    Anchored v where
  here := here ▸ anchored.here.mono kept
  home := home ▸ anchored.home

theorem marked_home_default (name : String) (home : Location)
    (held : ({} : Homes).find? name = some home) : Marked home := by
  unfold Homes.find? at held
  split at held
  · cases held
    exact fun _ member => by cases member
  · cases held

theorem foldl_climb_of_walk {s : Store} {here location : Location} {parts : List String}
    (marked : Marked parts) (led : s.walk here parts = .ok location) :
    parts.foldl (fun done part => if part == ".." then done.dropLast else done ++ [part]) here =
      location := by
  induction parts generalizing here with
  | nil =>
      cases led
      rfl
  | cons part rest ih =>
      obtain ⟨own, others⟩ := List.forall_mem_cons.mp marked
      obtain ⟨_, ⟨stays, _⟩ | ⟨rfl, on⟩ | ⟨named, on⟩⟩ := Store.walk_cons_eq_ok_iff.mp led
      · exact (stays.elim own.1 own.2).elim
      · exact ih others on
      · have apart : (part == "..") = false := by simpa using named.dots
        rw [List.foldl_cons, apart]
        exact ih others on

section Resolving

variable {w : Workspace η} {p : Path} {location : Location}

/-- The absolute form of a path leads where the path leads. -/
theorem run_resolvePath (anchored : Anchored w) (marked : Marked p.parts)
    (led : w.store.locate w.here p = .ok location) :
    (resolvePath p : Act η Path).run w = (.ok (absolute location), w) := by
  obtain ⟨clean, walked⟩ := Store.walk_of_locate led
  unfold resolvePath
  rw [Store.any_null_eq_false_iff.mpr clean]
  have whole : climb ((if p.start == .here then w.here else []) ++ p.parts) = location := by
    have both : Marked ((if p.start == .here then w.here else []) ++ p.parts) := by
      intro part member
      rcases List.mem_append.mp member with before | own
      · split at before
        · exact marked_of_reached anchored.here part before
        · cases before
      · exact marked part own
    refine foldl_climb_of_walk both (Store.walk_append ?_ walked)
    split
    · exact anchored.here.walk_self
    · rfl
  cases start : p.start with
  | here =>
      rw [start] at whole
      simp only [beq_self_eq_true, if_true] at whole
      rw [← whole]
      rfl
  | root =>
      rw [start] at whole
      rw [← whole]
      rfl
  | doubleRoot =>
      rw [start] at whole
      rw [← whole]
      rfl

end Resolving

theorem marked_of_homed {w : Workspace η} (anchored : Anchored w) {text : String} {p : Path}
    (found : homed w.home (.ofText text) = .ok p) : Marked p.parts := by
  have own : Marked (Path.ofText text).parts := marked_partsOf text.toList
  rcases homed_eq_ok found with rfl | ⟨first, rest, name, home, parts, held, rfl⟩
  · exact own
  · intro part member
    rcases List.mem_append.mp member with before | after
    · exact anchored.home name home held part before
    · exact own part (by rw [parts]; exact List.mem_cons_of_mem first after)

/-! ## The named file -/

theorem run_exists?_of_read {w : Workspace η} {p : Path} {bytes : Bytes}
    (held : w.store.read w.here p = .ok bytes) :
    (Act.exists? p : Act η Bool).run w = (.ok true, w) := by
  refine (Act.run_inspect _ w).trans ?_
  rw [Store.exists?_of_read held]
  rfl

section Named

variable {w : Workspace η} {text : String} {p : Path} {location : Location}
  (anchored : Anchored w) (homely : homed w.home (.ofText text) = .ok p)
  (led : w.store.locate w.here p = .ok location)
include anchored led

theorem reached_of_located : w.store.Reached location := by
  obtain ⟨clean, walked⟩ := Store.walk_of_locate led
  refine Store.Reached.walk ?_ clean walked
  split
  · exact anchored.here
  · exact .root

include homely

/-- A named file is looked for under the absolute form of its path. -/
theorem run_findFile_of_located (shown : text ≠ "") :
    (findFile (some text) : Act η Path).run w =
      (do
        Act.require (← Act.exists? (absolute location))
          (.settings (.notFound (absolute location).text))
        return absolute location : Act η Path).run w := by
  have expanded := run_expandHome (.ofText text) w
  rw [homely] at expanded
  have resolved := run_resolvePath anchored (marked_of_homed anchored homely) led
  have named : (text == "") = false := by simpa using shown
  unfold findFile
  simp only [named, Bool.false_eq_true, if_false]
  rw [run_bind_of_ok expanded, run_bind_of_ok resolved]

/-- A file that is there is found under its name, unless the absolute path is too long. -/
theorem run_findFile_of_stored (shown : text ≠ "") {bytes : Bytes}
    (standing : w.store.at? location = some (.file bytes))
    (short : (absolute location).text.utf8ByteSize ≤ Store.pathLimit) :
    (findFile (some text) : Act η Path).run w = (.ok (absolute location), w) ∧
      w.store.read w.here (absolute location) = .ok bytes := by
  have found := (reached_of_located anchored led).locate w.here short
  have held : w.store.read w.here (absolute location) = .ok bytes :=
    Store.read_eq_ok_iff.mpr ⟨location, found, standing⟩
  refine ⟨?_, held⟩
  rw [run_findFile_of_located anchored homely led shown,
    run_bind_of_ok (run_exists?_of_read held)]
  rfl

/-- A file whose absolute path is too long cannot be asked for. -/
theorem run_findFile_of_long (shown : text ≠ "")
    (long : Store.pathLimit < (absolute location).text.utf8ByteSize) :
    (findFile (some text) : Act η Path).run w =
      (.error (.file ⟨.nameTooLong, (absolute location).text⟩), w) := by
  have clean : ∀ part ∈ (absolute location).parts, part.contains '\x00' = false :=
    fun name member => ((reached_of_located anchored led).legal name member).2
  rw [run_findFile_of_located anchored homely led shown]
  refine run_bind_of_error ((Act.run_inspect _ w).trans ?_)
  rw [Store.exists?_of_long clean long]
  rfl

end Named

/-! ## Loading -/

theorem run_noteIgnored (names : List String) (w : Workspace η) :
    (noteIgnored names : Act η Unit).run w =
      (.ok (), { w with
        log := w.log ++ names.map fun name =>
          ⟨.warning, "Ignoring unknown config key: " ++ name⟩ }) := by
  induction names generalizing w with
  | nil => simp [noteIgnored]
  | cons name names ih =>
      rw [noteIgnored, run_bind_of_ok (Act.run_note _ _ w), ih]
      simp

/-- Understanding a table gives its settings and logs the keys that are ignored. -/
theorem run_understand (entries : Toml.Table) (w : Workspace η) :
    (understand entries : Act η Settings).run w =
      ((ofTable entries).2.mapError .settings, { w with
        log := w.log ++ (ofTable entries).1.map fun name =>
          ⟨.warning, "Ignoring unknown config key: " ++ name⟩ }) := by
  unfold understand
  cases read : ofTable entries with
  | mk ignored result =>
      dsimp only
      rw [run_bind_of_ok (run_noteIgnored ignored w)]
      cases result <;> rfl

theorem run_load {w : Workspace η} {named : Option String} {q : Path} {bytes : Bytes}
    {entries : Toml.Table} (found : (findFile named).run w = (.ok q, w))
    (held : w.store.read w.here q = .ok bytes) (read : tableOf bytes = .ok entries) :
    (load named).run w = ((ofTable entries).2.mapError .settings, { w with
      log := w.log ++ ⟨.debug, "Loaded config from: " ++ q.text⟩ ::
        (ofTable entries).1.map fun name =>
          ⟨.warning, "Ignoring unknown config key: " ++ name⟩ }) := by
  unfold load
  rw [run_bind_of_ok found, run_bind_of_ok (run_exists?_of_read held)]
  simp only [if_true]
  rw [run_bind_of_ok (Act.run_get w)]
  simp only [held]
  have told := Act.run_ofExcept (tableOf bytes) w
  rw [read] at told
  rw [read, run_bind_of_ok told, run_bind_of_ok (Act.run_note _ _ w), run_understand]
  simp

/-- A file that is there is loaded as the settings of its table, unless its absolute path is too
long. -/
theorem run_load_of_stored {w : Workspace η} {text : String} {p : Path} {location : Location}
    {bytes : Bytes} {entries : Toml.Table} (anchored : Anchored w) (shown : text ≠ "")
    (homely : homed w.home (.ofText text) = .ok p)
    (led : w.store.locate w.here p = .ok location)
    (standing : w.store.at? location = some (.file bytes)) (read : tableOf bytes = .ok entries) :
    (load (some text)).run w =
      if (absolute location).text.utf8ByteSize ≤ Store.pathLimit then
        ((ofTable entries).2.mapError .settings, { w with
          log := w.log ++ ⟨.debug, "Loaded config from: " ++ (absolute location).text⟩ ::
            (ofTable entries).1.map fun name =>
              ⟨.warning, "Ignoring unknown config key: " ++ name⟩ })
      else (.error (.file ⟨.nameTooLong, (absolute location).text⟩), w) := by
  split
  · rename_i short
    obtain ⟨found, held⟩ := run_findFile_of_stored anchored homely led shown standing short
    exact run_load found held read
  · rename_i long
    unfold load
    exact run_bind_of_error
      (run_findFile_of_long anchored homely led shown (Nat.not_le.mp long))

end CommandDocs.Settings

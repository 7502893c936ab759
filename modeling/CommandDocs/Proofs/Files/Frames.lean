import CommandDocs.Proofs.Files.Writing

/-!
# What operations on the files leave alone

Making directories adds directories and nothing else.  Writing, removing and moving a file change
the files at the locations that are named and no other file, and no directory.
-/

namespace CommandDocs.Files.Store

/-! ## Reading and looking -/

section Looking

variable {s : Store} {cwd : Location} {p : Path}

theorem read_eq_ok_iff {bytes : Bytes} :
    s.read cwd p = .ok bytes ↔
      ∃ location, s.locate cwd p = .ok location ∧ s.at? location = some (.file bytes) := by
  unfold read look
  cases led : s.locate cwd p with
  | error cause => simp [bind, Except.bind]
  | ok location =>
      cases standing : s.at? location with
      | none => simp [bind, Except.bind, standing]
      | some entry => cases entry <;> simp [bind, Except.bind, standing]

theorem isDirectory_eq_true_iff : s.isDirectory cwd p = .ok true ↔
    ∃ location, s.locate cwd p = .ok location ∧ s.at? location = some .directory := by
  unfold isDirectory probe look
  cases led : s.locate cwd p with
  | error cause => cases cause <;> simp [bind, Except.bind, Except.map]
  | ok location => cases standing : s.at? location <;>
      simp [bind, Except.bind, Except.map, standing]

/-- Where something is read, something is found. -/
theorem exists?_of_read {bytes : Bytes} (read : s.read cwd p = .ok bytes) :
    s.exists? cwd p = .ok true := by
  obtain ⟨location, led, standing⟩ := read_eq_ok_iff.mp read
  simp [exists?, probe, look, led, standing, bind, Except.bind, Except.map]

/-- Where nothing is found, nothing stands. -/
theorem at?_of_exists?_eq_false (absent : s.exists? cwd p = .ok false) {location : Location}
    (led : s.locate cwd p = .ok location) : s.at? location = none := by
  unfold exists? probe look at absent
  cases standing : s.at? location with
  | none => rfl
  | some entry => simp [led, standing, bind, Except.bind, Except.map] at absent

theorem exists?_of_vacant {location : Location} (led : s.locate cwd p = .ok location)
    (vacant : s.at? location = none) : s.exists? cwd p = .ok false := by
  simp [exists?, probe, look, led, vacant, bind, Except.bind, Except.map]

/-- A path that cannot be asked for leads nowhere. -/
theorem locate_of_exists?_eq_error {fault : Fault} (refused : s.exists? cwd p = .error fault)
    (location : Location) : s.locate cwd p ≠ .ok location := by
  intro led
  unfold exists? probe look at refused
  cases standing : s.at? location <;>
    simp [led, standing, bind, Except.bind, Except.map] at refused

end Looking

/-! ## Removing entries -/

theorem at?_erase_self (s : Store) {location : Location} (below : location ≠ []) :
    (s.erase location).at? location = none := by
  rw [at?_of_ne_nil _ below, erase, Option.map_eq_none_iff, List.find?_eq_none]
  intro e member
  have kept := (List.mem_filter.mp member).2
  simpa using kept

theorem at?_erase_of_ne (s : Store) {location other : Location} (apart : other ≠ location) :
    (s.erase location).at? other = s.at? other := by
  cases other with
  | nil => rfl
  | cons name rest =>
      have below := List.cons_ne_nil name rest
      have both : (fun e : Location × Entry =>
          decide ((e.1 != location) = true ∧ (e.1 == name :: rest) = true)) =
          fun e => e.1 == name :: rest := by
        funext e
        by_cases same : e.1 = name :: rest
        · simp [same, apart]
        · simp [same]
      rw [at?_of_ne_nil _ below, at?_of_ne_nil _ below, erase, List.find?_filter, both]

theorem sameDirectories_erase {s : Store} {location : Location}
    (free : s.at? location ≠ some .directory) : SameDirectories s (s.erase location) := by
  have below : location ≠ [] := fun root => free (by rw [root]; rfl)
  intro other
  by_cases same : other = location
  · rw [same, at?_erase_self s below]
    simp [free]
  · rw [at?_erase_of_ne s same]

/-! ## Frames -/

/-- The files of two stores are the same, but for those at some locations. -/
def SameFilesBut (changed : Location → Prop) (s t : Store) : Prop :=
  ∀ location, ¬changed location →
    ∀ bytes, s.at? location = some (.file bytes) ↔ t.at? location = some (.file bytes)

namespace SameFilesBut

variable {changed : Location → Prop} {s t u : Store}

theorem refl (s : Store) : SameFilesBut changed s s :=
  fun _ _ _ => Iff.rfl

theorem trans (first : SameFilesBut changed s t) (second : SameFilesBut changed t u) :
    SameFilesBut changed s u :=
  fun location apart bytes => (first location apart bytes).trans (second location apart bytes)

theorem mono {more : Location → Prop} (same : SameFilesBut changed s t)
    (wider : ∀ location, changed location → more location) : SameFilesBut more s t :=
  fun location apart => same location fun own => apart (wider location own)

theorem put (s : Store) (location : Location) (entry : Entry) :
    SameFilesBut (· = location) s (s.put location entry) := by
  intro other apart bytes
  rw [at?_put_of_ne s apart]

theorem erase (s : Store) (location : Location) :
    SameFilesBut (· = location) s (s.erase location) := by
  intro other apart bytes
  rw [at?_erase_of_ne s apart]

end SameFilesBut

/-! ## Making directories -/

/-- A store with more directories than another, and otherwise the same. -/
structure Extends (s t : Store) : Prop where
  kept : ∀ location entry, s.at? location = some entry → t.at? location = some entry
  added : ∀ location, s.at? location = none →
    t.at? location = none ∨ t.at? location = some .directory

namespace Extends

variable {s t u : Store}

theorem refl (s : Store) : Extends s s where
  kept _ _ standing := standing
  added _ vacant := Or.inl vacant

theorem trans (first : Extends s t) (second : Extends t u) : Extends s u where
  kept location entry standing := second.kept location entry (first.kept location entry standing)
  added location vacant := by
    rcases first.added location vacant with still | made
    · exact second.added location still
    · exact Or.inr (second.kept location _ made)

theorem put {location : Location} (vacant : s.at? location = none) :
    Extends s (s.put location .directory) where
  kept other entry standing := by
    have apart : other ≠ location := by
      rintro rfl
      rw [vacant] at standing
      cases standing
    rw [at?_put_of_ne s apart, standing]
  added other free := by
    by_cases same : other = location
    · have below : location ≠ [] := by
        rintro rfl
        cases vacant
      rw [same, at?_put_self s below]
      exact Or.inr rfl
    · rw [at?_put_of_ne s same]
      exact Or.inl free

theorem keepsDirectories (extended : Extends s t) : KeepsDirectories s t :=
  fun location => extended.kept location .directory

theorem read (extended : Extends s t) {cwd : Location} {p : Path} {bytes : Bytes}
    (held : s.read cwd p = .ok bytes) : t.read cwd p = .ok bytes := by
  obtain ⟨location, led, standing⟩ := read_eq_ok_iff.mp held
  refine read_eq_ok_iff.mpr ⟨location, ?_, extended.kept location _ standing⟩
  exact locate_eq_ok_of_keepsDirectories extended.keepsDirectories led

/-- More directories are no other files. -/
theorem sameFiles (extended : Extends s t) (changed : Location → Prop) :
    SameFilesBut changed s t := by
  intro location _ bytes
  constructor
  · exact extended.kept location _
  · intro standing
    cases before : s.at? location with
    | none =>
        rcases extended.added location before with vacant | made
        · rw [vacant] at standing
          cases standing
        · rw [made] at standing
          cases standing
    | some entry => rw [← extended.kept location entry before, standing]

end Extends

section Making

variable {s t : Store} {cwd : Location}

theorem makeOne_eq_ok_iff {p : Path} :
    s.makeOne cwd p = .ok t ↔ ∃ location, s.locate cwd p = .ok location ∧
      s.at? location = none ∧ t = s.put location .directory := by
  unfold makeOne
  cases led : s.locate cwd p with
  | error cause => simp
  | ok location => cases standing : s.at? location <;> simp [standing, eq_comm]

theorem extends_of_makeOne {p : Path} (made : s.makeOne cwd p = .ok t) : Extends s t := by
  obtain ⟨location, -, vacant, rfl⟩ := makeOne_eq_ok_iff.mp made
  exact .put vacant

section Related

variable {R : Store → Store → Prop} (refl : ∀ s, R s s)
  (makes : ∀ {s t p}, s.makeOne cwd p = .ok t → R s t)
include refl makes

theorem related_of_makeUnless {p : Path} (made : s.makeUnless cwd p = .ok t) : R s t := by
  unfold makeUnless at made
  cases one : s.makeOne cwd p with
  | ok store =>
      rw [one] at made
      cases made
      exact makes one
  | error fault =>
      rw [one] at made
      dsimp only at made
      split at made
      · cases made
      · cases there : s.isDirectory cwd p with
        | error other =>
            rw [there] at made
            cases made
        | ok answer =>
            rw [there] at made
            cases answer with
            | true =>
                cases made
                exact refl s
            | false => cases made

variable (trans : ∀ {s t u}, R s t → R t u → R s u)
include trans

/-- What holds of every directory that is made holds of all of them, whether or not the last one
can be made. -/
theorem related_makeParents (s : Store) (start : Start) (parts : List String) :
    R s (s.makeParents cwd start parts).1 := by
  induction parts with
  | nil =>
      unfold makeParents
      cases made : s.makeUnless cwd ⟨start, []⟩ with
      | ok store => exact related_of_makeUnless refl makes made
      | error fault => exact refl s
  | cons last above ih =>
      unfold makeParents
      dsimp only
      split
      · rename_i made
        exact related_of_makeUnless refl makes made
      · split
        · rename_i partly fault given
          rw [given] at ih
          exact ih
        · rename_i made given
          rw [given] at ih
          split
          · rename_i complete
            exact trans ih (related_of_makeUnless refl makes complete)
          · exact ih
      · exact refl s

theorem related_makeDirectories (s : Store) (p : Path) : R s (s.makeDirectories cwd p).1 :=
  related_makeParents refl makes trans s p.start p.parts.reverse

end Related

/-- Directories that are made stay made. -/
theorem extends_makeDirectories (s : Store) (cwd : Location) (p : Path) :
    Extends s (s.makeDirectories cwd p).1 :=
  related_makeDirectories .refl extends_of_makeOne .trans s p

end Making

/-! ## Removing and moving files -/

section Moving

variable {s t : Store} {cwd : Location}

/-- A file can be removed where there is one. -/
theorem unlink_eq_ok_iff {p : Path} :
    s.unlink cwd p = .ok t ↔ ∃ location bytes, s.locate cwd p = .ok location ∧
      s.at? location = some (.file bytes) ∧ t = s.erase location := by
  unfold unlink
  cases led : s.locate cwd p with
  | error cause => simp
  | ok location =>
      cases standing : s.at? location with
      | none => simp [standing]
      | some entry => cases entry <;> simp [standing, eq_comm]

/-- A file is moved from its location to one without a directory. -/
theorem exists_of_rename_eq_ok {source target : Path} (moved : s.rename cwd source target = .ok t) :
    ∃ origin goal bytes, s.locate cwd source = .ok origin ∧ s.locate cwd target = .ok goal ∧
      s.at? origin = some (.file bytes) ∧ s.at? goal ≠ some .directory ∧
      t = if origin = goal then s else (s.erase origin).put goal (.file bytes) := by
  unfold rename at moved
  cases found : s.read cwd source with
  | error fault =>
      rw [found] at moved
      cases moved
  | ok bytes =>
      obtain ⟨origin, led, standing⟩ := read_eq_ok_iff.mp found
      cases goes : s.locate cwd target with
      | error cause =>
          rw [found, led, goes] at moved
          cases moved
      | ok goal =>
          rw [found, led, goes] at moved
          dsimp only at moved
          split at moved
          · cases moved
          · rename_i free
            refine ⟨origin, goal, bytes, led, rfl, standing, ?_, ?_⟩
            · simpa using free
            · split at moved
              · rename_i same
                cases moved
                rw [if_pos (by simpa using same)]
              · rename_i apart
                cases moved
                rw [if_neg (by simpa using apart)]

/-- A file can be moved to where no directory stands. -/
theorem rename_eq_ok {source target : Path} {origin goal : Location} {bytes : Bytes}
    (led : s.locate cwd source = .ok origin) (goes : s.locate cwd target = .ok goal)
    (standing : s.at? origin = some (.file bytes)) (free : s.at? goal ≠ some .directory) :
    s.rename cwd source target =
      .ok (if origin = goal then s else (s.erase origin).put goal (.file bytes)) := by
  have held := read_eq_ok_iff.mpr ⟨origin, led, standing⟩
  unfold rename
  rw [held, led, goes]
  simp only [beq_iff_eq, free, if_false]
  split <;> rfl

/-- A move changes no directory, and no file but those at its two ends. -/
theorem frame_of_rename {source target : Path} (moved : s.rename cwd source target = .ok t) :
    SameDirectories s t ∧ SameFilesBut (fun location =>
      s.locate cwd source = .ok location ∨ s.locate cwd target = .ok location) s t ∧
    ∀ location, s.locate cwd source = .ok location → s.locate cwd target ≠ .ok location →
      t.at? location = none := by
  obtain ⟨origin, goal, bytes, led, goes, standing, free, rfl⟩ := exists_of_rename_eq_ok moved
  by_cases same : origin = goal
  · rw [if_pos same]
    refine ⟨.refl s, .refl s, ?_⟩
    intro location here apart
    rw [led] at here
    cases here
    exact absurd (by rw [goes, same]) apart
  · rw [if_neg same]
    have unblocked : s.at? origin ≠ some .directory := by simp [standing]
    have below : origin ≠ [] := fun root => unblocked (by rw [root]; rfl)
    have still : (s.erase origin).at? goal ≠ some .directory := by
      rwa [at?_erase_of_ne s (Ne.symm same)]
    refine ⟨(sameDirectories_erase unblocked).trans (sameDirectories_put still bytes), ?_, ?_⟩
    · refine ((SameFilesBut.erase s origin).mono ?_).trans
        ((SameFilesBut.put _ goal _).mono ?_)
      · rintro location rfl
        exact Or.inl led
      · rintro location rfl
        exact Or.inr goes
    · intro location here _
      rw [led] at here
      cases here
      rw [at?_put_of_ne _ same, at?_erase_self s below]

/-- What has been moved is read where it is. -/
theorem read_of_rename {source target : Path} {bytes : Bytes}
    (moved : s.rename cwd source target = .ok t) (held : s.read cwd source = .ok bytes) :
    t.read cwd target = .ok bytes := by
  obtain ⟨origin, goal, own, led, goes, standing, free, rfl⟩ := exists_of_rename_eq_ok moved
  obtain ⟨location, there, shown⟩ := read_eq_ok_iff.mp held
  rw [led] at there
  cases there
  rw [standing] at shown
  cases shown
  obtain ⟨same, _⟩ := frame_of_rename moved
  refine read_eq_ok_iff.mpr ⟨goal, locate_eq_ok_of_sameDirectories same goes, ?_⟩
  by_cases place : origin = goal
  · rw [if_pos place, ← place, standing]
  · have below : goal ≠ [] := fun root => free (by rw [root]; rfl)
    rw [if_neg place, at?_put_self _ below]

theorem frame_of_write {p : Path} {bytes : Bytes} (written : s.write cwd p bytes = .ok t) :
    SameDirectories s t ∧
      SameFilesBut (fun location => s.locate cwd p = .ok location) s t := by
  obtain ⟨location, led, free, rfl⟩ := write_eq_ok_iff.mp written
  refine ⟨sameDirectories_put free bytes, (SameFilesBut.put s location _).mono ?_⟩
  rintro other rfl
  exact led

/-- A removal changes no directory, and no file but the removed one. -/
theorem frame_of_unlink {p : Path} (removed : s.unlink cwd p = .ok t) :
    SameDirectories s t ∧
      SameFilesBut (fun location => s.locate cwd p = .ok location) s t ∧
      ∀ location, s.locate cwd p = .ok location → t.at? location = none := by
  obtain ⟨location, bytes, led, standing, rfl⟩ := unlink_eq_ok_iff.mp removed
  have unblocked : s.at? location ≠ some .directory := by simp [standing]
  have below : location ≠ [] := fun root => unblocked (by rw [root]; rfl)
  refine ⟨sameDirectories_erase unblocked, (SameFilesBut.erase s location).mono ?_, ?_⟩
  · rintro other rfl
    exact led
  · intro other here
    rw [led] at here
    cases here
    exact at?_erase_self s below

/-- Nothing but a file can be found where a removal is refused. -/
theorem at?_ne_file_of_unlink_eq_error {p : Path} {fault : Fault}
    (refused : s.unlink cwd p = .error fault) {location : Location}
    (led : s.locate cwd p = .ok location) (bytes : Bytes) :
    s.at? location ≠ some (.file bytes) := by
  intro standing
  have removed := unlink_eq_ok_iff.mpr ⟨location, bytes, led, standing, rfl⟩
  rw [removed] at refused
  cases refused

end Moving

end CommandDocs.Files.Store

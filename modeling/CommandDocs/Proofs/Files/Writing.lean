import CommandDocs.Files.Store

/-!
# Writing files

Writing a file makes no directory and unmakes none.  A path that leads somewhere therefore leads
to the same place after any number of files have been written.
-/

namespace CommandDocs.Files.Store

/-! ## Putting entries -/

theorem at?_of_ne_nil (s : Store) {location : Location} (below : location ≠ []) :
    s.at? location = (s.entries.find? fun e => e.1 == location).map (·.2) := by
  cases location with
  | nil => exact absurd rfl below
  | cons name rest => rfl

theorem at?_put_self (s : Store) {location : Location} (below : location ≠ []) (entry : Entry) :
    (s.put location entry).at? location = some entry := by
  rw [at?_of_ne_nil _ below, put]
  split
  · rename_i there
    obtain ⟨old, member, named⟩ := List.any_eq_true.mp there
    have found : (s.entries.find? fun e => e.1 == location).isSome :=
      List.find?_isSome.mpr ⟨old, member, named⟩
    obtain ⟨first, here⟩ := Option.isSome_iff_exists.mp found
    have keyed := List.find?_some here
    have same : ((fun e => e.1 == location) ∘ fun e =>
        if e.1 == location then (location, entry) else e) = fun e => e.1 == location := by
      funext e
      by_cases key : e.1 = location <;> simp [key]
    rw [List.find?_map, same, here]
    simp only [Option.map_some, keyed, if_true]
  · rename_i absent
    have none : (s.entries.find? fun e => e.1 == location) = none := by
      refine List.find?_eq_none.mpr fun e member keyed => absent ?_
      exact List.any_eq_true.mpr ⟨e, member, keyed⟩
    rw [List.find?_append, none]
    simp

theorem at?_put_of_ne (s : Store) {location other : Location} (apart : other ≠ location)
    (entry : Entry) : (s.put location entry).at? other = s.at? other := by
  cases other with
  | nil => rfl
  | cons name rest =>
      rw [at?_of_ne_nil _ (List.cons_ne_nil name rest),
        at?_of_ne_nil _ (List.cons_ne_nil name rest), put]
      split
      · have same : ((fun e => e.1 == name :: rest) ∘ fun e =>
            if e.1 == location then (location, entry) else e) = fun e => e.1 == name :: rest := by
          funext e
          by_cases key : e.1 = location <;> simp [key]
        rw [List.find?_map, same]
        cases found : s.entries.find? fun e => e.1 == name :: rest with
        | none => rfl
        | some e =>
            have keyed : e.1 = name :: rest := by simpa using List.find?_some found
            simp [keyed, apart]
      · rw [List.find?_append]
        have missed : (location == name :: rest) = false := by simpa using Ne.symm apart
        simp [missed]

/-! ## Stores with the same directories -/

/-- Two stores with the same directories. -/
def SameDirectories (s t : Store) : Prop :=
  ∀ location, s.at? location = some .directory ↔ t.at? location = some .directory

theorem SameDirectories.refl (s : Store) : SameDirectories s s :=
  fun _ => Iff.rfl

theorem SameDirectories.symm {s t : Store} (same : SameDirectories s t) : SameDirectories t s :=
  fun location => (same location).symm

theorem SameDirectories.trans {s t u : Store} (first : SameDirectories s t)
    (second : SameDirectories t u) : SameDirectories s u :=
  fun location => (first location).trans (second location)

theorem sameDirectories_put {s : Store} {location : Location}
    (free : s.at? location ≠ some .directory) (bytes : Bytes) :
    SameDirectories s (s.put location (.file bytes)) := by
  have below : location ≠ [] := fun root => free (by rw [root]; rfl)
  intro other
  by_cases same : other = location
  · rw [same, at?_put_self s below]
    simp [free]
  · rw [at?_put_of_ne s same]

def KeepsDirectories (s t : Store) : Prop :=
  ∀ location, s.at? location = some .directory → t.at? location = some .directory

theorem SameDirectories.keeps {s t : Store} (same : SameDirectories s t) : KeepsDirectories s t :=
  fun location => (same location).mp

/-- What can be the name of an entry. -/
structure IsName (name : String) : Prop where
  shown : name ≠ ""
  dot : name ≠ "."
  dots : name ≠ ".."
  short : name.utf8ByteSize ≤ nameLimit

instance (name : String) : Decidable (IsName name) :=
  decidable_of_iff (name ≠ "" ∧ name ≠ "." ∧ name ≠ ".." ∧ name.utf8ByteSize ≤ nameLimit)
    ⟨fun ⟨shown, dot, dots, short⟩ => ⟨shown, dot, dots, short⟩,
      fun own => ⟨own.shown, own.dot, own.dots, own.short⟩⟩

/-- One part of a path leads from a directory: nowhere else, up, or down to an entry. -/
theorem walk_cons_eq_ok_iff {s : Store} {here location : Location} {part : String}
    {rest : List String} :
    s.walk here (part :: rest) = .ok location ↔ s.at? here = some .directory ∧
      ((part = "" ∨ part = ".") ∧ s.walk here rest = .ok location ∨
        part = ".." ∧ s.walk here.dropLast rest = .ok location ∨
          IsName part ∧ s.walk (here ++ [part]) rest = .ok location) := by
  cases standing : s.at? here with
  | none => simp [walk, standing]
  | some entry =>
      cases entry with
      | file bytes => simp [walk, standing]
      | directory =>
          simp only [walk, standing, true_and, Bool.or_eq_true, beq_iff_eq]
          by_cases stays : part = "" ∨ part = "."
          · have apart : part ≠ ".." := by rcases stays with rfl | rfl <;> decide
            have none : ¬IsName part := fun own => stays.elim own.shown own.dot
            simp [stays, apart, none]
          · by_cases up : part = ".."
            · subst up
              have none : ¬IsName ".." := fun own => own.dots rfl
              simp [none]
            · have named : IsName part ↔ ¬nameLimit < part.utf8ByteSize := by
                constructor
                · exact fun own => Nat.not_lt.mpr own.short
                · exact fun short => ⟨fun same => stays (Or.inl same),
                    fun same => stays (Or.inr same), up, Nat.not_lt.mp short⟩
              by_cases long : nameLimit < part.utf8ByteSize <;> simp [stays, up, named, long]

theorem walk_eq_ok_of_keepsDirectories {s t : Store} (kept : KeepsDirectories s t)
    {parts : List String} {here location : Location} (led : s.walk here parts = .ok location) :
    t.walk here parts = .ok location := by
  induction parts generalizing here with
  | nil => exact led
  | cons part rest ih =>
      obtain ⟨standing, moved⟩ := walk_cons_eq_ok_iff.mp led
      refine walk_cons_eq_ok_iff.mpr ⟨kept here standing, ?_⟩
      rcases moved with ⟨stays, on⟩ | ⟨up, on⟩ | ⟨own, on⟩
      · exact Or.inl ⟨stays, ih on⟩
      · exact Or.inr (Or.inl ⟨up, ih on⟩)
      · exact Or.inr (Or.inr ⟨own, ih on⟩)

/-- A path that leads somewhere leads there in any store with the same directories and more. -/
theorem locate_eq_ok_of_keepsDirectories {s t : Store} (kept : KeepsDirectories s t)
    {cwd location : Location} {p : Path} (led : s.locate cwd p = .ok location) :
    t.locate cwd p = .ok location := by
  unfold locate at led ⊢
  split at led
  · cases led
  · rename_i clean
    rw [if_neg clean]
    split at led
    · cases led
    · rename_i short
      rw [if_neg short]
      exact walk_eq_ok_of_keepsDirectories kept led

theorem locate_eq_ok_of_sameDirectories {s t : Store} (same : SameDirectories s t)
    {cwd location : Location} {p : Path} (led : s.locate cwd p = .ok location) :
    t.locate cwd p = .ok location :=
  locate_eq_ok_of_keepsDirectories same.keeps led

/-! ## Writing -/

/-- A file can be written where its path leads, unless there is a directory. -/
theorem write_eq_ok_iff {s t : Store} {cwd : Location} {p : Path} {bytes : Bytes} :
    s.write cwd p bytes = .ok t ↔ ∃ location, s.locate cwd p = .ok location ∧
      s.at? location ≠ some .directory ∧ t = s.put location (.file bytes) := by
  unfold write
  cases led : s.locate cwd p with
  | error cause => simp
  | ok location =>
      cases standing : s.at? location with
      | none => simp [standing, eq_comm]
      | some entry => cases entry <;> simp [standing, eq_comm]

theorem write_of_sameDirectories {s t : Store} (same : SameDirectories s t) {cwd : Location}
    {p : Path} {bytes : Bytes} {after : Store} (written : s.write cwd p bytes = .ok after) :
    ∃ location, s.locate cwd p = .ok location ∧ s.at? location ≠ some .directory ∧
      t.write cwd p bytes = .ok (t.put location (.file bytes)) := by
  obtain ⟨location, led, free, rfl⟩ := write_eq_ok_iff.mp written
  refine ⟨location, led, free, write_eq_ok_iff.mpr ⟨location, ?_, ?_, rfl⟩⟩
  · exact locate_eq_ok_of_sameDirectories same led
  · exact fun standing => free ((same location).mpr standing)

theorem read_of_write {s t : Store} {cwd : Location} {p : Path} {bytes : Bytes}
    (written : s.write cwd p bytes = .ok t) : t.read cwd p = .ok bytes := by
  obtain ⟨location, led, free, rfl⟩ := write_eq_ok_iff.mp written
  have below : location ≠ [] := fun root => free (by rw [root]; rfl)
  have later := locate_eq_ok_of_sameDirectories (sameDirectories_put free bytes) led
  simp only [read, look, later, bind, Except.bind, at?_put_self s below]

end CommandDocs.Files.Store

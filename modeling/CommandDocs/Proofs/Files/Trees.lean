import CommandDocs.Files.Search
import CommandDocs.Proofs.Files.Children
import Mathlib.Data.List.Nodup

/-!
# Trees of files

A store is a tree when no location stands in it twice and every entry is reached from the root.
Operations on files keep it one.  The names in a directory of a tree are those of the entries below
it, each of them once.  A path that leads to an entry can be asked for unless it is too long.
-/

namespace CommandDocs.Files

def Path.entry (dir : Path) (name : String) : Path :=
  ⟨dir.start, dir.parts ++ [name]⟩

@[simp] theorem Path.name_entry (dir : Path) (name : String) : (dir.entry name).name = name := by
  simp [Path.entry, Path.name]

def Entry.isFile : Entry → Bool
  | .file _ => true
  | .directory => false

/-- A path that the operating system looks up: it has at most 4095 bytes. -/
def Path.IsShort (p : Path) : Prop :=
  p.text.utf8ByteSize ≤ Store.pathLimit

instance (p : Path) : Decidable p.IsShort :=
  inferInstanceAs (Decidable (p.text.utf8ByteSize ≤ Store.pathLimit))

namespace Store

def locations (s : Store) : List Location :=
  s.entries.map (·.1)

/-- A store in which every entry has a place of its own that is reached from the root. -/
structure IsTree (s : Store) : Prop where
  distinct : s.locations.Nodup
  below : [] ∉ s.locations
  reached : ∀ location ∈ s.locations, s.Reached location

/-! ## What stands at a location -/

section Standing

variable {s : Store}

theorem mem_locations_iff {location : Location} (below : location ≠ []) :
    location ∈ s.locations ↔ ∃ entry, s.at? location = some entry := by
  simp only [at?_of_ne_nil s below, locations, List.mem_map, Option.map_eq_some_iff]
  constructor
  · rintro ⟨e, member, rfl⟩
    have found : (s.entries.find? fun other => other.1 == e.1).isSome :=
      List.find?_isSome.mpr ⟨e, member, by simp⟩
    obtain ⟨first, here⟩ := Option.isSome_iff_exists.mp found
    exact ⟨first.2, first, here, rfl⟩
  · rintro ⟨entry, e, found, rfl⟩
    exact ⟨e, List.mem_of_find?_eq_some found, by simpa using List.find?_some found⟩

/-- Where no location stands twice, an entry stands where it is listed. -/
theorem at?_eq_some_iff (distinct : s.locations.Nodup) {location : Location} {entry : Entry}
    (below : location ≠ []) : s.at? location = some entry ↔ (location, entry) ∈ s.entries := by
  rw [at?_of_ne_nil s below, Option.map_eq_some_iff]
  constructor
  · rintro ⟨e, found, rfl⟩
    have keyed : e.1 = location := by simpa using List.find?_some found
    have member := List.mem_of_find?_eq_some found
    rwa [← keyed]
  · intro member
    have found : (s.entries.find? fun other => other.1 == location).isSome :=
      List.find?_isSome.mpr ⟨_, member, by simp⟩
    obtain ⟨first, here⟩ := Option.isSome_iff_exists.mp found
    have keyed : first.1 = location := by simpa using List.find?_some here
    have same := List.inj_on_of_nodup_map distinct (List.mem_of_find?_eq_some here) member keyed
    exact ⟨first, here, by rw [same]⟩

theorem IsTree.reached_of_standing (tree : s.IsTree) {location : Location} {entry : Entry}
    (standing : s.at? location = some entry) : s.Reached location := by
  by_cases below : location = []
  · rw [below]
    exact .root
  · exact tree.reached location ((mem_locations_iff below).mpr ⟨entry, standing⟩)

/-- Above an entry there is a directory. -/
theorem IsTree.above_of_standing (tree : s.IsTree) {location : Location} {name : String}
    {entry : Entry} (standing : s.at? (location ++ [name]) = some entry) :
    s.at? location = some .directory := by
  have reached := tree.reached_of_standing standing
  generalize same : location ++ [name] = place at reached
  cases reached with
  | root => simp at same
  | child above here =>
      rw [List.append_singleton_inj] at same
      rwa [same.1]

end Standing

/-! ## Entries in another order -/

section Reordered

variable {s t : Store}

/-- The same entries in another order stand at the same locations. -/
theorem IsTree.at?_of_perm (tree : s.IsTree) (same : s.entries.Perm t.entries)
    (location : Location) : t.at? location = s.at? location := by
  by_cases below : location = []
  · rw [below]
    rfl
  · have distinct : t.locations.Nodup := (same.map _).nodup_iff.mp tree.distinct
    refine Option.ext fun entry => ?_
    rw [at?_eq_some_iff tree.distinct below, at?_eq_some_iff distinct below, same.mem_iff]

theorem IsTree.perm (tree : s.IsTree) (same : s.entries.Perm t.entries) : t.IsTree := by
  have moved : s.locations.Perm t.locations := same.map _
  have kept : KeepsDirectories s t := fun location standing =>
    (tree.at?_of_perm same location).trans standing
  exact ⟨moved.nodup_iff.mp tree.distinct, fun root => tree.below (moved.mem_iff.mpr root),
    fun location member => (tree.reached location (moved.mem_iff.mpr member)).mono kept⟩

variable (same : ∀ location, t.at? location = s.at? location)
include same

theorem walk_of_at? (here : Location) (parts : List String) :
    t.walk here parts = s.walk here parts := by
  induction parts generalizing here with
  | nil => rfl
  | cons part rest ih => simp only [walk, same, ih]

theorem locate_of_at? (cwd : Location) (p : Path) : t.locate cwd p = s.locate cwd p := by
  simp only [locate, walk_of_at? same]

theorem probe_of_at? (cwd : Location) (p : Path) : t.probe cwd p = s.probe cwd p := by
  simp only [probe, look, locate_of_at? same, same]

end Reordered

/-! ## Changing a tree -/

section Changing

variable {s t : Store}

theorem locations_put (s : Store) (location : Location) (entry : Entry) :
    (s.put location entry).locations =
      if location ∈ s.locations then s.locations else s.locations ++ [location] := by
  have listed : (s.entries.any fun e => e.1 == location) = true ↔ location ∈ s.locations := by
    simp [locations]
  unfold put
  by_cases there : location ∈ s.locations
  · rw [if_pos (listed.mpr there), if_pos there, locations, locations, List.map_map]
    refine List.map_congr_left fun e _ => ?_
    by_cases own : e.1 = location <;> simp [own]
  · rw [if_neg (fun any => there (listed.mp any)), if_neg there]
    simp [locations]

/-- An entry that stands already is put in vain. -/
theorem put_of_at? (distinct : s.locations.Nodup) {location : Location} {entry : Entry}
    (below : location ≠ []) (standing : s.at? location = some entry) :
    s.put location entry = s := by
  have member := (at?_eq_some_iff distinct below).mp standing
  have listed : (s.entries.any fun e => e.1 == location) = true :=
    List.any_eq_true.mpr ⟨_, member, by simp⟩
  have kept : (s.entries.map fun e => if e.1 == location then (location, entry) else e) =
      s.entries := by
    refine (List.map_congr_left fun e own => ?_).trans (List.map_id _)
    by_cases keyed : e.1 = location
    · have same := List.inj_on_of_nodup_map distinct own member keyed
      simp [same]
    · simp [keyed]
  rw [put, if_pos listed, kept]

theorem IsTree.put (tree : s.IsTree) {location : Location} (reached : s.Reached location)
    (below : location ≠ []) {entry : Entry} (kept : s.KeepsDirectories (s.put location entry)) :
    (s.put location entry).IsTree := by
  have shape := locations_put s location entry
  by_cases there : location ∈ s.locations
  · rw [if_pos there] at shape
    exact ⟨by rw [shape]; exact tree.distinct, by rw [shape]; exact tree.below,
      fun other member => (tree.reached other (by rwa [shape] at member)).mono kept⟩
  · rw [if_neg there] at shape
    refine ⟨?_, ?_, ?_⟩
    · rw [shape]
      exact tree.distinct.append (List.nodup_singleton location)
        (List.disjoint_singleton.mpr there)
    · rw [shape, List.mem_append, List.mem_singleton]
      exact fun root => root.elim tree.below fun same => below same.symm
    · intro other member
      rw [shape, List.mem_append, List.mem_singleton] at member
      rcases member with old | rfl
      · exact (tree.reached other old).mono kept
      · exact reached.mono kept

theorem IsTree.put_file (tree : s.IsTree) {location : Location} (reached : s.Reached location)
    (free : s.at? location ≠ some .directory) (bytes : Bytes) :
    (s.put location (.file bytes)).IsTree :=
  tree.put reached (fun root => free (by rw [root]; rfl)) (sameDirectories_put free bytes).keeps

theorem IsTree.erase (tree : s.IsTree) {location : Location}
    (free : s.at? location ≠ some .directory) : (s.erase location).IsTree := by
  have kept : List.Sublist (s.erase location).locations s.locations :=
    List.filter_sublist.map _
  exact ⟨tree.distinct.sublist kept, fun root => tree.below (kept.subset root), fun other member =>
    (tree.reached other (kept.subset member)).mono (sameDirectories_erase free).keeps⟩

variable {cwd : Location} {p : Path}

/-- A path from a reached location leads to a reached location. -/
theorem Reached.of_locate (reached : s.Reached cwd) {location : Location}
    (led : s.locate cwd p = .ok location) : s.Reached location := by
  obtain ⟨clean, walked⟩ := walk_of_locate led
  refine Reached.walk ?_ clean walked
  split
  · exact reached
  · exact .root

end Changing

/-! ## Names in a directory -/

section Names

variable {s t : Store}

/-- The name of an entry in a directory, if it stands directly in it. -/
def nameIn (location entry : Location) : Option String :=
  if entry.dropLast == location then entry.getLast? else none

theorem nameIn_eq_some_iff {location entry : Location} {name : String} :
    nameIn location entry = some name ↔ entry = location ++ [name] := by
  unfold nameIn
  constructor
  · intro named
    split at named
    · rename_i above
      obtain ⟨front, rfl⟩ := List.getLast?_eq_some_iff.mp named
      rw [List.dropLast_concat, beq_iff_eq] at above
      rw [above]
    · cases named
  · rintro rfl
    simp

theorem names_eq_filterMap (s : Store) (location : Location) :
    s.names location = s.locations.filterMap (nameIn location) := by
  rw [locations, List.filterMap_map]
  rfl

theorem mem_names_iff {location : Location} {name : String} :
    name ∈ s.names location ↔ ∃ entry, s.at? (location ++ [name]) = some entry := by
  rw [← mem_locations_iff (by simp), names_eq_filterMap, List.mem_filterMap]
  simp [nameIn_eq_some_iff]

theorem IsTree.nodup_names (tree : s.IsTree) (location : Location) :
    (s.names location).Nodup := by
  rw [names_eq_filterMap]
  refine tree.distinct.filterMap fun first second name named other => ?_
  rw [nameIn_eq_some_iff.mp named, nameIn_eq_some_iff.mp other]

/-- What can be the name of an entry of a tree. -/
theorem IsTree.legal_of_standing (tree : s.IsTree) {location : Location} {name : String}
    {entry : Entry} (standing : s.at? (location ++ [name]) = some entry) :
    IsName name ∧ name.contains '\x00' = false :=
  (tree.reached_of_standing standing).legal name (by simp)

end Names

/-! ## Where paths lead -/

/-- Where a path leads, however long it is. -/
def follow (s : Store) (cwd : Location) (p : Path) : Except Cause Location :=
  s.walk (if p.start == .here then cwd else []) p.parts

section Leading

variable {s : Store} {cwd location : Location} {p : Path}

theorem follow_of_locate (led : s.locate cwd p = .ok location) : s.follow cwd p = .ok location :=
  (walk_of_locate led).2

theorem probe_of_locate (led : s.locate cwd p = .ok location) :
    s.probe cwd p = .ok (s.at? location) := by
  unfold probe look
  rw [led]
  cases standing : s.at? location <;> simp [standing, bind, Except.bind]

theorem probe_of_lost {cause : Cause} (lost : s.locate cwd p = .error cause) :
    s.probe cwd p = if cause = .nameTooLong then .error ⟨.nameTooLong, p.text⟩ else .ok none := by
  unfold probe look
  rw [lost]
  cases cause <;> simp [bind, Except.bind]

variable (tree : s.IsTree)
include tree

/-- A walk to an entry goes by the names of entries alone. -/
theorem IsTree.clean_of_walk {here : Location} {parts : List String} {entry : Entry}
    (led : s.walk here parts = .ok location) (standing : s.at? location = some entry) :
    ∀ part ∈ parts, part.contains '\x00' = false := by
  induction parts generalizing here with
  | nil => simp
  | cons part rest ih =>
      obtain ⟨_, moved⟩ := walk_cons_eq_ok_iff.mp led
      rw [List.forall_mem_cons]
      rcases moved with ⟨rfl | rfl, on⟩ | ⟨rfl, on⟩ | ⟨own, on⟩
      · exact ⟨by simp [String.contains_char_eq], ih on⟩
      · exact ⟨by simp [String.contains_char_eq], ih on⟩
      · exact ⟨by simp [String.contains_char_eq], ih on⟩
      · refine ⟨?_, ih on⟩
        have there : ∃ other, s.at? (here ++ [part]) = some other := by
          cases rest with
          | nil => exact ⟨entry, by rwa [Except.ok.inj on]⟩
          | cons next rest => exact ⟨_, (walk_cons_eq_ok_iff.mp on).1⟩
        obtain ⟨other, there⟩ := there
        exact (tree.legal_of_standing there).2

variable (led : s.follow cwd p = .ok location)
include led

/-- A name leads to the entry of that name, if there is one. -/
theorem follow_entry {name : String} {entry : Entry}
    (there : s.at? (location ++ [name]) = some entry) :
    s.follow cwd (p.entry name) = .ok (location ++ [name]) := by
  have own := (tree.legal_of_standing there).1
  exact walk_append led
    (walk_cons_eq_ok_iff.mpr ⟨tree.above_of_standing there, Or.inr (Or.inr ⟨own, rfl⟩)⟩)

variable {entry : Entry} (standing : s.at? location = some entry)
include standing

theorem locate_of_follow :
    s.locate cwd p = if p.IsShort then .ok location else .error .nameTooLong := by
  have clean := any_null_eq_false_iff.mpr (tree.clean_of_walk led standing)
  rw [locate, clean, if_neg Bool.false_ne_true]
  by_cases short : p.IsShort
  · rw [if_pos short, if_neg (Nat.not_lt.mpr short)]
    exact led
  · rw [if_neg short, if_pos (Nat.not_le.mp short)]

/-- Only a short path can be asked for. -/
theorem isFile_of_follow :
    s.isFile cwd p = if p.IsShort then .ok entry.isFile else .error ⟨.nameTooLong, p.text⟩ := by
  have found := locate_of_follow tree led standing
  unfold isFile
  by_cases short : p.IsShort
  · rw [if_pos short] at found ⊢
    rw [probe_of_locate found, standing]
    cases entry <;> rfl
  · rw [if_neg short] at found ⊢
    rw [probe_of_lost found]
    rfl

end Leading

/-! ## A directory of files -/

def folder (dir : String) (files : List (String × Bytes)) : Store :=
  ⟨([dir], .directory) :: files.map fun file => ([dir, file.1], .file file.2)⟩

section Folder

variable {dir : String} {files : List (String × Bytes)}

theorem locations_folder :
    (folder dir files).locations = [dir] :: (files.map (·.1)).map fun name => [dir, name] := by
  simp [folder, locations]

theorem at?_folder : (folder dir files).at? [dir] = some .directory := by
  simp [folder, at?]

variable (distinct : (files.map (·.1)).Nodup)
include distinct

theorem nodup_locations_folder : (folder dir files).locations.Nodup := by
  rw [locations_folder, List.nodup_cons]
  refine ⟨by simp, distinct.map fun name other same => ?_⟩
  simpa using same

theorem at?_folder_eq_some_iff {name : String} {entry : Entry} :
    (folder dir files).at? [dir, name] = some entry ↔
      ∃ bytes, (name, bytes) ∈ files ∧ entry = .file bytes := by
  rw [at?_eq_some_iff (nodup_locations_folder distinct) (by simp)]
  simp [folder, eq_comm]

theorem isTree_folder (own : IsName dir) (clean : '\x00' ∉ dir.toList)
    (legal : ∀ file ∈ files, IsName file.1 ∧ '\x00' ∉ file.1.toList) :
    (folder dir files).IsTree := by
  have above : (folder dir files).Reached [dir] :=
    Reached.root.child rfl own (contains_null_eq_false clean)
  refine ⟨nodup_locations_folder distinct, by simp [locations_folder], fun location member => ?_⟩
  rw [locations_folder, List.mem_cons, List.map_map, List.mem_map] at member
  rcases member with rfl | ⟨file, member, rfl⟩
  · exact above
  · exact above.child at?_folder (legal file member).1
      (contains_null_eq_false (legal file member).2)

end Folder

end Store

end CommandDocs.Files

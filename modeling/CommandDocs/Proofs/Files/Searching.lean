import CommandDocs.Proofs.Files.Trees
import CommandDocs.Proofs.Outcomes
import Mathlib.Data.List.Perm.Subperm

/-!
# Searching a grown tree

A tree grows when files are put in it.  A search of the grown tree finds what it found before, in
the same order, and besides it only paths at which nothing stood before.
-/

namespace CommandDocs.Files.Store

/-! ## Paths that lead to entries -/

/-- Whether there is an entry where a path leads. -/
def stands (s : Store) (cwd : Location) (p : Path) : Bool :=
  match s.follow cwd p with
  | .ok location => (s.at? location).isSome
  | .error _ => false

section Leading

variable {s : Store} {cwd location : Location} {p : Path}

theorem stands_of_follow (led : s.follow cwd p = .ok location) :
    s.stands cwd p = (s.at? location).isSome := by
  rw [stands, led]

theorem stands_eq_true_iff : s.stands cwd p = true ↔
    ∃ location entry, s.follow cwd p = .ok location ∧ s.at? location = some entry := by
  unfold stands
  cases led : s.follow cwd p with
  | error cause => simp
  | ok location => simp [Option.isSome_iff_exists]

/-- A path is answered for when it leads somewhere, and also when it is merely astray. -/
theorem probe_eq_ok_iff {answer : Option Entry} : s.probe cwd p = .ok answer ↔
    (∃ location, s.locate cwd p = .ok location ∧ s.at? location = answer) ∨
      answer = none ∧ ∃ cause, s.locate cwd p = .error cause ∧ cause ≠ .nameTooLong := by
  cases led : s.locate cwd p with
  | ok location => simp [probe_of_locate led]
  | error cause =>
      rw [probe_of_lost led]
      by_cases long : cause = .nameTooLong <;> simp [long, eq_comm]

theorem stands_of_probe {entry : Entry} (there : s.probe cwd p = .ok (some entry)) :
    s.stands cwd p = true := by
  rcases probe_eq_ok_iff.mp there with ⟨location, led, standing⟩ | ⟨none, _⟩
  · exact stands_eq_true_iff.mpr ⟨location, entry, follow_of_locate led, standing⟩
  · cases none

theorem exists?_eq_ok_iff {answer : Bool} : s.exists? cwd p = .ok answer ↔
    ∃ entry, s.probe cwd p = .ok entry ∧ entry.isSome = answer := by
  unfold exists?
  cases s.probe cwd p <;> simp [Except.map]

theorem stands_of_isDirectory (there : s.isDirectory cwd p = .ok true) :
    s.stands cwd p = true := by
  obtain ⟨location, led⟩ := exists_locate_of_isDirectory there
  rw [isDirectory, probe_of_locate led, Except.map, Except.ok.injEq, beq_iff_eq] at there
  exact stands_eq_true_iff.mpr ⟨location, _, follow_of_locate led, there⟩

variable (tree : s.IsTree) (led : s.follow cwd p = .ok location) {name : String}
include tree led

theorem stands_entry {entry : Entry} (standing : s.at? (location ++ [name]) = some entry) :
    s.stands cwd (p.entry name) = true := by
  rw [stands_of_follow (follow_entry tree led standing), standing]
  rfl

omit tree in
theorem stands_entry_of_vacant (own : IsName name) (vacant : s.at? (location ++ [name]) = none) :
    s.stands cwd (p.entry name) = false := by
  rw [← Bool.not_eq_true, stands_eq_true_iff]
  rintro ⟨place, entry, onward, standing⟩
  obtain ⟨above, before, rfl⟩ := exists_of_walk_append own.shown own.dot own.dots onward
  have same : location = above := Except.ok.inj (led.symm.trans before)
  rw [← same, vacant] at standing
  cases standing

end Leading

/-! ## Asking under the same directories -/

section SameDirectories

variable {s t : Store} (same : SameDirectories s t)
include same

theorem walk_tooLong_of_sameDirectories {here : Location} {parts : List String}
    (long : s.walk here parts = .error .nameTooLong) :
    t.walk here parts = .error .nameTooLong := by
  induction parts generalizing here with
  | nil => cases long
  | cons part rest ih =>
      rw [walk] at long
      cases standing : s.at? here with
      | none => simp [standing] at long
      | some entry =>
          cases entry with
          | file bytes => simp [standing] at long
          | directory =>
              simp only [standing] at long
              simp only [walk, (same here).mp standing]
              split_ifs at long ⊢
              · exact ih long
              · exact ih long
              · rfl
              · exact ih long

theorem locate_tooLong_of_sameDirectories {cwd : Location} {p : Path}
    (long : s.locate cwd p = .error .nameTooLong) : t.locate cwd p = .error .nameTooLong := by
  unfold locate at long ⊢
  split
  · rename_i nulls
    rw [if_pos nulls] at long
    cases long
  · rename_i clean
    rw [if_neg clean] at long
    split
    · rfl
    · rename_i short
      rw [if_neg short] at long
      exact walk_tooLong_of_sameDirectories same long

theorem isDirectory_of_sameDirectories (cwd : Location) (p : Path) :
    t.isDirectory cwd p = s.isDirectory cwd p := by
  unfold isDirectory
  cases led : s.locate cwd p with
  | ok location =>
      rw [probe_of_locate led, probe_of_locate (locate_eq_ok_of_sameDirectories same led),
        Except.map, Except.map, Except.ok.injEq, Bool.eq_iff_iff, beq_iff_eq, beq_iff_eq]
      exact (same location).symm
  | error cause =>
      cases lost : t.locate cwd p with
      | ok location =>
          rw [locate_eq_ok_of_sameDirectories same.symm lost] at led
          cases led
      | error other =>
          have long : other = .nameTooLong ↔ cause = .nameTooLong := by
            constructor
            · rintro rfl
              have back := locate_tooLong_of_sameDirectories same.symm lost
              exact Except.error.inj (led.symm.trans back)
            · rintro rfl
              have back := locate_tooLong_of_sameDirectories same led
              exact Except.error.inj (lost.symm.trans back)
          rw [probe_of_lost led, probe_of_lost lost]
          simp only [long]

end SameDirectories

/-! ## How deep a tree is -/

section Deep

variable {s : Store}

theorem at?_of_mem_directoryNames {location : Location} {name : String}
    (member : name ∈ s.directoryNames location) : s.at? (location ++ [name]) = some .directory :=
  beq_iff_eq.mp (List.mem_filter.mp member).2

variable (tree : s.IsTree)
include tree

theorem IsTree.exists_at?_take {location : Location} {entry : Entry}
    (standing : s.at? location = some entry) (count : Nat) :
    ∃ above, s.at? (location.take count) = some above := by
  induction location using List.reverseRecOn generalizing entry with
  | nil => exact ⟨entry, by rwa [List.take_nil]⟩
  | append_singleton front name ih =>
      by_cases inner : count ≤ front.length
      · rw [List.take_append_of_le_length inner]
        exact ih (tree.above_of_standing standing)
      · refine ⟨entry, ?_⟩
        rwa [List.take_of_length_le (by simp; omega)]

/-- No entry of a tree lies deeper than there are entries. -/
theorem IsTree.length_le {location : Location} {entry : Entry}
    (standing : s.at? location = some entry) : location.length ≤ s.entries.length := by
  let tops := (List.range location.length).map fun k => location.take (k + 1)
  have own : tops.Nodup := by
    refine List.Nodup.map_on (fun j first k second same => ?_) List.nodup_range
    have sizes := congrArg List.length same
    rw [List.mem_range] at first second
    rw [List.length_take, List.length_take] at sizes
    omega
  have listed : tops ⊆ s.locations := by
    intro top member
    obtain ⟨k, inside, rfl⟩ := List.mem_map.mp member
    rw [List.mem_range] at inside
    have below : location.take (k + 1) ≠ [] := by
      intro empty
      have size := congrArg List.length empty
      rw [List.length_take, List.length_nil] at size
      omega
    exact (mem_locations_iff below).mpr (tree.exists_at?_take standing (k + 1))
  have size := (own.subperm listed).length_le
  simpa [tops, locations] using size

theorem IsTree.length_lt_of_mem {location : Location} {name : String}
    (member : name ∈ s.directoryNames location) : location.length < s.entries.length := by
  have deep := tree.length_le (at?_of_mem_directoryNames member)
  rwa [List.length_append, List.length_singleton] at deep

theorem directoriesBelow_succ {depth : Nat} {location : Location} (p : Path)
    (deep : s.entries.length ≤ location.length + depth) :
    s.directoriesBelow (depth + 1) location p = s.directoriesBelow depth location p := by
  induction depth generalizing location p with
  | zero =>
      have none : s.directoryNames location = [] :=
        List.eq_nil_iff_forall_not_mem.mpr fun name member =>
          Nat.not_lt.mpr deep (tree.length_lt_of_mem member)
      rw [directoriesBelow, directoriesBelow, none, List.flatMap_nil]
  | succ depth ih =>
      rw [directoriesBelow, directoriesBelow, List.cons.injEq]
      refine ⟨rfl, List.flatMap_congr fun name _ => ih _ ?_⟩
      rw [List.length_append, List.length_singleton]
      omega

theorem directoriesBelow_of_le {depth : Nat} (deep : s.entries.length ≤ depth)
    (location : Location) (p : Path) :
    s.directoriesBelow depth location p = s.directoriesBelow s.entries.length location p := by
  induction depth, deep using Nat.le_induction with
  | base => rfl
  | succ depth deep ih => rw [directoriesBelow_succ tree p (by omega), ih]

end Deep

/-! ## Results that are kept -/

/-- What is kept of a search for more items is what was found for the old ones. -/
theorem exists_mapM_of_filter {ι : Type} {first : ι → Except Fault (List Path)} {old : ι → Bool}
    {items : List ι} {found : List (List Path)} (second : ι → Except Fault (List Path))
    (keep : Path → Bool)
    (kept : ∀ i ∈ items, old i = true → ∀ paths, first i = .ok paths →
      ∃ more, second i = .ok more ∧ more.filter keep = paths)
    (fresh : ∀ i ∈ items, old i = false → ∃ more, second i = .ok more ∧ more.filter keep = [])
    (ran : (items.filter old).mapM first = .ok found) :
    ∃ more, items.mapM second = .ok more ∧ more.flatten.filter keep = found.flatten := by
  induction items generalizing found with
  | nil =>
      cases ran
      exact ⟨[], rfl, rfl⟩
  | cons i rest ih =>
      obtain ⟨keptFirst, kept⟩ := List.forall_mem_cons.mp kept
      obtain ⟨freshFirst, fresh⟩ := List.forall_mem_cons.mp fresh
      cases known : old i with
      | true =>
          rw [List.filter_cons_of_pos known] at ran
          obtain ⟨paths, others, own, later, rfl⟩ := mapM_cons_eq_ok_iff.mp ran
          obtain ⟨more, made, same⟩ := keptFirst known paths own
          obtain ⟨onward, last, equal⟩ := ih kept fresh later
          refine ⟨more :: onward, mapM_cons_eq_ok_iff.mpr ⟨more, onward, made, last, rfl⟩, ?_⟩
          rw [List.flatten_cons, List.filter_append, same, equal, List.flatten_cons]
      | false =>
          rw [List.filter_cons_of_neg (by simp [known])] at ran
          obtain ⟨more, made, none⟩ := freshFirst known
          obtain ⟨onward, last, equal⟩ := ih kept fresh ran
          refine ⟨more :: onward, mapM_cons_eq_ok_iff.mpr ⟨more, onward, made, last, rfl⟩, ?_⟩
          rw [List.flatten_cons, List.filter_append, none, equal, List.nil_append]

/-- First occurrences are kept like all others. -/
theorem filter_distinct (keep : Path → Bool) (paths : List Path) :
    (distinct paths).filter keep = distinct (paths.filter keep) := by
  have step (seen : List Path) :
      (paths.foldl (fun seen p => if seen.contains p then seen else seen ++ [p]) seen).filter keep =
        (paths.filter keep).foldl (fun seen p => if seen.contains p then seen else seen ++ [p])
          (seen.filter keep) := by
    induction paths generalizing seen with
    | nil => rfl
    | cons p rest ih =>
        rw [List.foldl_cons, ih, List.filter_cons]
        cases known : keep p <;> by_cases there : p ∈ seen <;> simp [known, there]
  exact step []

theorem mem_distinct_iff {p : Path} {paths : List Path} : p ∈ distinct paths ↔ p ∈ paths := by
  have step (seen : List Path) :
      p ∈ paths.foldl (fun seen p => if seen.contains p then seen else seen ++ [p]) seen ↔
        p ∈ seen ∨ p ∈ paths := by
    induction paths generalizing seen with
    | nil => simp
    | cons q rest ih =>
        rw [List.foldl_cons, ih]
        by_cases there : q ∈ seen
        · simp only [List.contains_iff_mem, there, if_true, List.mem_cons]
          constructor
          · exact Or.imp_right Or.inr
          · rintro (before | rfl | later)
            · exact Or.inl before
            · exact Or.inl there
            · exact Or.inr later
        · simp [there, or_assoc]
  simpa [distinct] using step []

/-! ## One part of a pattern -/

section Parts

variable {s : Store} {cwd : Location} {only : Bool} {p : Path} {rest : List SearchPart}
  {found : List Path}

/-- The names of a directory that are asked for: at the end of a pattern all of them, unless it
asks for directories alone. -/
def asked (s : Store) (last : Bool) (location : Location) : List String :=
  if last then s.names location else s.directoryNames location

/-- Whether a search goes on at a path: at the end of a pattern there may be anything, and a
directory elsewhere. -/
def goesOn (s : Store) (cwd : Location) (last : Bool) (p : Path) : Except Fault Bool :=
  if last then s.exists? cwd p else s.isDirectory cwd p

theorem searchFrom_name_eq_ok_iff {part : String} :
    s.searchFrom cwd only p (.name part :: rest) = .ok found ↔
      ∃ goes, s.goesOn cwd (rest.isEmpty && !only) (p.entry part) = .ok goes ∧
        (goes = true ∧ s.searchFrom cwd only (p.entry part) rest = .ok found ∨
          goes = false ∧ found = []) := by
  rw [searchFrom, goesOn]
  split
  · rw [bind_eq_ok_iff]
    refine exists_congr fun goes => and_congr_right fun _ => ?_
    cases goes <;> simp [pure, Except.pure, Path.entry, eq_comm]
  · rw [bind_eq_ok_iff]
    refine exists_congr fun goes => and_congr_right fun _ => ?_
    cases goes <;> simp [pure, Except.pure, Path.entry, eq_comm]

theorem searchFrom_wildcard_eq_ok_iff {pattern : String} :
    s.searchFrom cwd only p (.wildcard pattern :: rest) = .ok found ↔
      ∃ location lists, s.locate cwd p = .ok location ∧
        (((s.asked (rest.isEmpty && !only) location).filter fun name =>
          Text.matchesPattern pattern.toList name.toList).mapM fun name =>
            s.searchFrom cwd only (p.entry name) rest) = .ok lists ∧ lists.flatten = found := by
  simp only [searchFrom, bind_eq_ok_iff, mapError_eq_ok_iff, pure, Except.pure, Except.ok.injEq,
    exists_and_left, asked, Path.entry]

theorem searchFrom_anyDepth_eq_ok_iff :
    s.searchFrom cwd only p (.anyDepth :: rest) = .ok found ↔
      ∃ location lists, s.locate cwd p = .ok location ∧
        ((s.directoriesBelow s.entries.length location p).mapM fun below =>
          s.searchFrom cwd only below.2 rest) = .ok lists ∧ distinct lists.flatten = found := by
  simp only [searchFrom, bind_eq_ok_iff, mapError_eq_ok_iff, pure, Except.pure, Except.ok.injEq,
    exists_and_left]

end Parts

/-! ## What a search finds -/

section Found

variable {s : Store} {cwd : Location} {only : Bool}

theorem stands_of_goesOn {last : Bool} {p : Path} (goes : s.goesOn cwd last p = .ok true) :
    s.stands cwd p = true := by
  unfold goesOn at goes
  split at goes
  · obtain ⟨entry, asked, some⟩ := exists?_eq_ok_iff.mp goes
    obtain ⟨own, rfl⟩ := Option.isSome_iff_exists.mp some
    exact stands_of_probe asked
  · exact stands_of_isDirectory goes

theorem exists_at?_of_mem_asked {last : Bool} {location : Location} {name : String}
    (member : name ∈ s.asked last location) : ∃ entry, s.at? (location ++ [name]) = some entry := by
  unfold asked at member
  split at member
  · exact mem_names_iff.mp member
  · exact ⟨_, at?_of_mem_directoryNames member⟩

variable (tree : s.IsTree)
include tree

theorem stands_of_mem_directoriesBelow {depth : Nat} {location : Location} {p : Path}
    (led : s.follow cwd p = .ok location) (standing : s.stands cwd p = true)
    {below : Location × Path} (member : below ∈ s.directoriesBelow depth location p) :
    s.stands cwd below.2 = true := by
  induction depth generalizing location p with
  | zero =>
      rw [List.mem_singleton.mp member]
      exact standing
  | succ depth ih =>
      rcases List.mem_cons.mp member with rfl | deeper
      · exact standing
      · obtain ⟨name, named, inside⟩ := List.mem_flatMap.mp deeper
        have there := at?_of_mem_directoryNames named
        exact ih (follow_entry tree led there) (stands_entry tree led there) inside

/-- The paths that are found lead to entries. -/
theorem stands_of_mem_searchFrom {parts : List SearchPart} {p : Path} {found : List Path}
    (standing : s.stands cwd p = true) (ran : s.searchFrom cwd only p parts = .ok found) :
    ∀ q ∈ found, s.stands cwd q = true := by
  induction parts generalizing p found with
  | nil =>
      cases ran
      intro q member
      rwa [List.mem_singleton.mp member]
  | cons part rest ih =>
      cases part with
      | name part =>
          obtain ⟨goes, answered, ⟨rfl, onward⟩ | ⟨_, rfl⟩⟩ := searchFrom_name_eq_ok_iff.mp ran
          · exact ih (stands_of_goesOn answered) onward
          · simp
      | wildcard pattern =>
          obtain ⟨location, lists, led, made, rfl⟩ := searchFrom_wildcard_eq_ok_iff.mp ran
          intro q member
          obtain ⟨list, listed, inside⟩ := List.mem_flatten.mp member
          obtain ⟨name, named, onward⟩ := exists_of_mem_mapM made listed
          obtain ⟨entry, there⟩ := exists_at?_of_mem_asked (List.mem_filter.mp named).1
          exact ih (stands_entry tree (follow_of_locate led) there) onward q inside
      | anyDepth =>
          obtain ⟨location, lists, led, made, rfl⟩ := searchFrom_anyDepth_eq_ok_iff.mp ran
          intro q member
          obtain ⟨list, listed, inside⟩ := List.mem_flatten.mp (mem_distinct_iff.mp member)
          obtain ⟨below, under, onward⟩ := exists_of_mem_mapM made listed
          have reached := stands_of_mem_directoriesBelow tree (follow_of_locate led) standing under
          exact ih reached onward q inside

theorem stands_of_mem_search {dir : Path} {pattern : SearchPattern} {found : List Path}
    (ran : s.search cwd dir pattern = .ok found) : ∀ q ∈ found, s.stands cwd q = true := by
  rw [search, bind_eq_ok_iff] at ran
  obtain ⟨there, asked, ran⟩ := ran
  cases there with
  | false =>
      cases ran
      simp
  | true => exact stands_of_mem_searchFrom tree (stands_of_isDirectory asked) ran

end Found

/-! ## Growing -/

/-- Two trees with the same directories, the second with more files. -/
structure Grown (s t : Store) : Prop where
  before : s.IsTree
  after : t.IsTree
  directories : SameDirectories s t
  kept : ∀ location, (s.at? location).isSome → (t.at? location).isSome
  names : ∀ location,
    (t.names location).filter (fun name => (s.at? (location ++ [name])).isSome) = s.names location

theorem grown_put {s : Store} (tree : s.IsTree) {location : Location}
    (reached : s.Reached location) (free : s.at? location ≠ some .directory) (bytes : Bytes) :
    Grown s (s.put location (.file bytes)) where
  before := tree
  after := tree.put_file reached free bytes
  directories := sameDirectories_put free bytes
  kept other standing := by
    have below : location ≠ [] := fun root => free (by rw [root]; rfl)
    by_cases same : other = location
    · rw [same, at?_put_self s below]
      rfl
    · rwa [at?_put_of_ne s same]
  names other := by
    have all : (s.names other).filter (fun name => (s.at? (other ++ [name])).isSome) =
        s.names other :=
      List.filter_eq_self.mpr fun name member =>
        Option.isSome_iff_exists.mpr (mem_names_iff.mp member)
    rw [names_eq_filterMap, locations_put]
    split
    · rw [← names_eq_filterMap, all]
    · rename_i fresh
      rw [List.filterMap_append, List.filter_append, ← names_eq_filterMap, all,
        List.append_right_eq_self, List.filter_eq_nil_iff]
      intro name member
      obtain ⟨place, own, named⟩ := List.mem_filterMap.mp member
      rw [List.mem_singleton.mp own, nameIn_eq_some_iff] at named
      rw [← named]
      intro standing
      have below : location ≠ [] := fun root => free (by rw [root]; rfl)
      exact fresh ((mem_locations_iff below).mpr (Option.isSome_iff_exists.mp standing))

namespace Grown

variable {s t : Store} (grown : Grown s t) {cwd : Location}
include grown

theorem directoryNames (location : Location) :
    t.directoryNames location = s.directoryNames location := by
  rw [Store.directoryNames, Store.directoryNames, ← grown.names location, List.filter_filter]
  refine List.filter_congr fun name _ => Bool.eq_iff_iff.mpr ?_
  rw [beq_iff_eq, Bool.and_eq_true, beq_iff_eq, ← grown.directories]
  constructor
  · intro standing
    exact ⟨standing, by rw [standing]; rfl⟩
  · exact And.left

theorem directoriesBelow (depth : Nat) (location : Location) (p : Path) :
    t.directoriesBelow depth location p = s.directoriesBelow depth location p := by
  induction depth generalizing location p with
  | zero => rfl
  | succ depth ih => simp only [Store.directoriesBelow, grown.directoryNames, ih]

theorem length_le : s.entries.length ≤ t.entries.length := by
  have inside : s.locations ⊆ t.locations := by
    intro location member
    have below : location ≠ [] := fun root => grown.before.below (by rwa [← root])
    rw [mem_locations_iff below, ← Option.isSome_iff_exists] at member ⊢
    exact grown.kept location member
  simpa [locations] using (grown.before.distinct.subperm inside).length_le

/-- The names that are asked for are the old ones, and new ones at the end of a pattern. -/
theorem filter_asked (last : Bool) (location : Location) :
    (t.asked last location).filter (fun name => (s.at? (location ++ [name])).isSome) =
      s.asked last location := by
  unfold asked
  cases last with
  | true => exact grown.names location
  | false =>
      rw [if_neg Bool.false_ne_true, if_neg Bool.false_ne_true, grown.directoryNames]
      refine List.filter_eq_self.mpr fun name member => ?_
      rw [at?_of_mem_directoryNames member]
      rfl

theorem locate {p : Path} {location : Location} (led : s.locate cwd p = .ok location) :
    t.locate cwd p = .ok location :=
  locate_eq_ok_of_sameDirectories grown.directories led

theorem follow {p : Path} {location : Location} (led : s.follow cwd p = .ok location) :
    t.follow cwd p = .ok location :=
  walk_eq_ok_of_keepsDirectories grown.directories.keeps led

theorem isFile_at {location : Location} {entry : Entry} (standing : s.at? location = some entry) :
    ∃ later, t.at? location = some later ∧ later.isFile = entry.isFile := by
  have kind := grown.directories location
  obtain ⟨later, now⟩ := Option.isSome_iff_exists.mp (grown.kept location (by rw [standing]; rfl))
  refine ⟨later, now, ?_⟩
  rw [standing, now] at kind
  cases entry <;> cases later <;> simp_all [Entry.isFile]

theorem isFile_of_stands {p : Path} (standing : s.stands cwd p = true) :
    t.isFile cwd p = s.isFile cwd p := by
  obtain ⟨location, entry, led, there⟩ := stands_eq_true_iff.mp standing
  obtain ⟨later, now, same⟩ := grown.isFile_at there
  rw [isFile_of_follow grown.before led there, isFile_of_follow grown.after (grown.follow led) now,
    same]

theorem isDirectory (p : Path) : t.isDirectory cwd p = s.isDirectory cwd p :=
  isDirectory_of_sameDirectories grown.directories cwd p

/-- What was there is there, and what was not may be there now. -/
theorem exists? {p : Path} {there : Bool} (asked : s.exists? cwd p = .ok there) :
    t.exists? cwd p = .ok there ∨
      there = false ∧ s.stands cwd p = false ∧ t.exists? cwd p = .ok true := by
  obtain ⟨entry, answered, rfl⟩ := exists?_eq_ok_iff.mp asked
  simp only [exists?_eq_ok_iff]
  rcases probe_eq_ok_iff.mp answered with ⟨location, led, rfl⟩ | ⟨rfl, cause, lost, short⟩
  · have later := probe_of_locate (grown.locate led)
    have stood := stands_of_follow (follow_of_locate led)
    cases before : s.at? location with
    | some entry =>
        exact Or.inl ⟨_, later, grown.kept location (by rw [before]; rfl)⟩
    | none =>
        cases now : t.at? location with
        | none => exact Or.inl ⟨_, later, by rw [now]⟩
        | some entry =>
            rw [before] at stood
            exact Or.inr ⟨rfl, stood, _, later, by rw [now]; rfl⟩
  · refine Or.inl ⟨none, probe_eq_ok_iff.mpr (Or.inr ⟨rfl, ?_⟩), rfl⟩
    cases later : t.locate cwd p with
    | ok location =>
        rw [locate_eq_ok_of_sameDirectories grown.directories.symm later] at lost
        cases lost
    | error other =>
        refine ⟨other, rfl, ?_⟩
        rintro rfl
        rw [locate_tooLong_of_sameDirectories grown.directories.symm later] at lost
        cases lost
        exact short rfl

/-- A search goes on where it went on, and at the end of a pattern also at a new file. -/
theorem goesOn {last : Bool} {p : Path} {goes : Bool} (asked : s.goesOn cwd last p = .ok goes) :
    t.goesOn cwd last p = .ok goes ∨
      last = true ∧ goes = false ∧ s.stands cwd p = false ∧ t.goesOn cwd last p = .ok true := by
  unfold Store.goesOn at asked ⊢
  cases last with
  | true => exact (grown.exists? asked).imp_right fun fresh => ⟨rfl, fresh⟩
  | false =>
      rw [if_neg Bool.false_ne_true] at asked ⊢
      exact Or.inl ((grown.isDirectory p).trans asked)

/-- The names that fit and stood before are those that fitted. -/
theorem filter_asked_fitting (last : Bool) (location : Location) (fits : String → Bool) :
    ((t.asked last location).filter fits).filter
        (fun name => (s.at? (location ++ [name])).isSome) =
      (s.asked last location).filter fits := by
  rw [← grown.filter_asked, List.filter_filter, List.filter_filter]
  exact List.filter_congr fun name _ => Bool.and_comm _ _

/-- A name that is asked for and did not stand before ends a pattern. -/
theorem last_of_fresh {last : Bool} {location : Location} {name : String}
    (member : name ∈ t.asked last location) (fresh : (s.at? (location ++ [name])).isSome = false) :
    last = true := by
  cases last with
  | true => rfl
  | false =>
      unfold Store.asked at member
      rw [if_neg Bool.false_ne_true, grown.directoryNames] at member
      rw [at?_of_mem_directoryNames member] at fresh
      cases fresh

/-- What is found in the grown tree where something stood before is what was found before. -/
theorem searchFrom {only : Bool} {parts : List SearchPart} {p : Path} {found : List Path}
    (standing : s.stands cwd p = true) (ran : s.searchFrom cwd only p parts = .ok found) :
    ∃ more, t.searchFrom cwd only p parts = .ok more ∧ more.filter (s.stands cwd) = found := by
  induction parts generalizing p found with
  | nil =>
      cases ran
      exact ⟨[p], rfl, by rw [List.filter_singleton, standing]; rfl⟩
  | cons part rest ih =>
      cases part with
      | name part =>
          obtain ⟨goes, asked, onward⟩ := searchFrom_name_eq_ok_iff.mp ran
          simp only [searchFrom_name_eq_ok_iff]
          rcases grown.goesOn asked with again | ⟨last, rfl, vacant, now⟩
          · rcases onward with ⟨rfl, onward⟩ | ⟨rfl, rfl⟩
            · obtain ⟨more, made, same⟩ := ih (stands_of_goesOn asked) onward
              exact ⟨more, ⟨true, again, Or.inl ⟨rfl, made⟩⟩, same⟩
            · exact ⟨[], ⟨false, again, Or.inr ⟨rfl, rfl⟩⟩, rfl⟩
          · obtain ⟨none, _⟩ | ⟨_, rfl⟩ := onward
            · cases none
            · rw [Bool.and_eq_true, List.isEmpty_iff] at last
              refine ⟨[p.entry part], ⟨true, now, Or.inl ⟨rfl, by rw [last.1]; rfl⟩⟩, ?_⟩
              rw [List.filter_singleton, vacant]
              rfl
      | wildcard pattern =>
          obtain ⟨location, lists, led, made, rfl⟩ := searchFrom_wildcard_eq_ok_iff.mp ran
          have here := follow_of_locate led
          rw [← grown.filter_asked_fitting] at made
          obtain ⟨more, found, same⟩ := exists_mapM_of_filter
            (fun name => t.searchFrom cwd only (p.entry name) rest) (s.stands cwd) (by
              intro name member known paths onward
              obtain ⟨entry, there⟩ := Option.isSome_iff_exists.mp known
              exact ih (stands_entry grown.before here there) onward) (by
              intro name member fresh
              have named := (List.mem_filter.mp member).1
              have last := grown.last_of_fresh named fresh
              rw [Bool.and_eq_true, List.isEmpty_iff] at last
              obtain ⟨entry, there⟩ := exists_at?_of_mem_asked named
              have own := (grown.after.legal_of_standing there).1
              rw [Option.isSome_eq_false_iff, Option.isNone_iff_eq_none] at fresh
              refine ⟨[p.entry name], by rw [last.1]; rfl, ?_⟩
              rw [List.filter_singleton, stands_entry_of_vacant here own fresh]
              rfl) made
          exact ⟨more.flatten, searchFrom_wildcard_eq_ok_iff.mpr
            ⟨location, more, grown.locate led, found, rfl⟩, same⟩
      | anyDepth =>
          obtain ⟨location, lists, led, made, rfl⟩ := searchFrom_anyDepth_eq_ok_iff.mp ran
          have here := follow_of_locate led
          have belows : t.directoriesBelow t.entries.length location p =
              s.directoriesBelow s.entries.length location p := by
            rw [grown.directoriesBelow,
              directoriesBelow_of_le grown.before grown.length_le location p]
          rw [← List.filter_true (s.directoriesBelow _ _ _)] at made
          obtain ⟨more, found, same⟩ := exists_mapM_of_filter
            (fun below => t.searchFrom cwd only below.2 rest) (s.stands cwd) (by
              intro below member _ paths onward
              exact ih (stands_of_mem_directoriesBelow grown.before here standing member) onward)
            (by simp) made
          refine ⟨distinct more.flatten, searchFrom_anyDepth_eq_ok_iff.mpr
            ⟨location, more, grown.locate led, ?_, rfl⟩, ?_⟩
          · rw [belows, found]
          · rw [filter_distinct, same]

/-- A search of the grown tree finds what it found before, and besides it what is new. -/
theorem search {dir : Path} {pattern : SearchPattern} {found : List Path}
    (ran : s.search cwd dir pattern = .ok found) :
    ∃ more, t.search cwd dir pattern = .ok more ∧ more.filter (s.stands cwd) = found := by
  rw [Store.search, bind_eq_ok_iff] at ran
  simp only [Store.search, bind_eq_ok_iff]
  obtain ⟨there, asked, ran⟩ := ran
  have again := (grown.isDirectory dir).trans asked
  cases there with
  | false =>
      cases ran
      exact ⟨[], ⟨false, again, rfl⟩, rfl⟩
  | true =>
      obtain ⟨more, made, same⟩ := grown.searchFrom (stands_of_isDirectory asked) ran
      exact ⟨more, ⟨true, again, made⟩, same⟩

end Grown

end CommandDocs.Files.Store

import CommandDocs.Proofs.Files.Reached
import CommandDocs.Proofs.Text.Lines

/-!
# Children of a directory

A file name without slashes names a child of a directory.  In a name with slashes only what
follows the last of them can be the name of an entry, so that the entry is found elsewhere or
under another name.
-/

namespace CommandDocs

/-! ## The last piece of a text -/

/-- What is appended without a separator belongs to the last piece. -/
theorem Text.exists_splitAt_append (separator : Char) (s : List Char) {t : List Char}
    (free : separator ∉ t) :
    ∃ front last, separator ∉ last ∧ splitAt separator (s ++ t) = front ++ [last ++ t] := by
  induction s with
  | nil => exact ⟨[], [], by simp, splitAt_of_not_mem free⟩
  | cons c rest ih =>
      obtain ⟨front, last, clean, pieces⟩ := ih
      by_cases here : c = separator
      · refine ⟨[] :: front, last, clean, ?_⟩
        rw [List.cons_append, splitAt, pieces, if_pos (by simpa using here), List.cons_append]
      · have other : ¬separator = c := fun same => here same.symm
        rw [List.cons_append, splitAt, pieces, if_neg (by simpa using here)]
        cases front with
        | nil => exact ⟨[], c :: last, by simp [other, clean], rfl⟩
        | cons first others => exact ⟨(c :: first) :: others, last, clean, rfl⟩

namespace Files

/-! ## Paths of file names -/

/-- An ending of file names that holds no slash and is too long to make one or two dots. -/
structure IsEnding (ending : String) : Prop where
  flat : '/' ∉ ending.toList
  long : 3 ≤ ending.toList.length

namespace IsEnding

variable {ending : String} (ends : IsEnding ending)
include ends

theorem long_append (name : String) : 3 ≤ (name ++ ending).toList.length := by
  rw [String.toList_append, List.length_append]
  exact Nat.le_add_left_of_le ends.long

/-- A file name with an ending is none of the parts that have a meaning of their own. -/
theorem append_ne {other : String} (short : other.toList.length < 3) (name : String) :
    name ++ ending ≠ other := by
  intro same
  have long := ends.long_append name
  rw [same] at long
  exact absurd long (Nat.not_le.mpr short)

theorem kept (name : String) :
    ((name ++ ending).toList != [] && (name ++ ending).toList != ['.']) = true := by
  have long := ends.long_append name
  rw [Bool.and_eq_true, bne_iff_ne, bne_iff_ne]
  constructor
  · intro empty
    simp [empty] at long
  · intro dot
    simp [dot] at long

end IsEnding

namespace Path

variable {ending : String} (ends : IsEnding ending)
include ends

/-- The last part of a file name is what follows the last slash. -/
theorem exists_partsOf_append (name : String) :
    ∃ front last, '/' ∉ last.toList ∧
      partsOf (name ++ ending).toList = front ++ [last ++ ending] := by
  obtain ⟨front, last, flat, pieces⟩ := Text.exists_splitAt_append '/' name.toList ends.flat
  have shown : last ++ ending.toList = (String.ofList last ++ ending).toList := by simp
  refine ⟨(front.filter fun part => part != [] && part != ['.']).map String.ofList,
    String.ofList last, by simpa using flat, ?_⟩
  rw [partsOf, String.toList_append, pieces, shown, List.filter_append, List.filter_singleton,
    ends.kept, List.map_append]
  simp

/-- The path of a child ends in what follows the last slash of its name. -/
theorem exists_parts_child (dir : Path) (name : String) :
    ∃ front last, '/' ∉ last.toList ∧
      (dir.child (name ++ ending)).parts = front ++ [last ++ ending] := by
  obtain ⟨front, last, flat, parts⟩ := exists_partsOf_append ends name
  unfold child join ofText
  cases startOf (name ++ ending).toList with
  | here => exact ⟨dir.parts ++ front, last, flat, by simp only [parts, List.append_assoc]⟩
  | root => exact ⟨front, last, flat, parts⟩
  | doubleRoot => exact ⟨front, last, flat, parts⟩

/-- A file name without slashes is one part below its directory. -/
theorem child_of_flat (dir : Path) {name : String} (flat : '/' ∉ name.toList) :
    dir.child (name ++ ending) = ⟨dir.start, dir.parts ++ [name ++ ending]⟩ := by
  have free : '/' ∉ (name ++ ending).toList := by
    rw [String.toList_append, List.mem_append]
    exact fun member => member.elim flat ends.flat
  have parts : partsOf (name ++ ending).toList = [name ++ ending] := by
    rw [partsOf, Text.splitAt_of_not_mem free, List.filter_singleton, ends.kept]
    simp
  have start : startOf (name ++ ending).toList = .here := by
    unfold startOf
    split
    · rename_i shape
      exact absurd (by simp [shape]) free
    · rename_i shape
      exact absurd (by simp [shape]) free
    · rename_i shape
      exact absurd (by simp [shape]) free
    · rfl
  rw [child, join, ofText, start, parts]

end Path

/-! ## Walking to a child -/

namespace Store

variable {s : Store}

/-- A walk that ends in the name of an entry ends at that entry. -/
theorem exists_of_walk_append {here location : Location} {front : List String} {name : String}
    (shown : name ≠ "") (dot : name ≠ ".") (dots : name ≠ "..")
    (led : s.walk here (front ++ [name]) = .ok location) :
    ∃ above, s.walk here front = .ok above ∧ location = above ++ [name] := by
  induction front generalizing here with
  | nil =>
      rcases (walk_cons_eq_ok_iff.mp led).2 with ⟨stays, _⟩ | ⟨up, _⟩ | ⟨own, on⟩
      · exact absurd stays (by simp [shown, dot])
      · exact absurd up dots
      · exact ⟨here, rfl, (Except.ok.inj on).symm⟩
  | cons part rest ih =>
      obtain ⟨standing, moved⟩ := walk_cons_eq_ok_iff.mp led
      rcases moved with ⟨stays, on⟩ | ⟨up, on⟩ | ⟨own, on⟩
      · obtain ⟨above, walked, same⟩ := ih on
        exact ⟨above, walk_cons_eq_ok_iff.mpr ⟨standing, Or.inl ⟨stays, walked⟩⟩, same⟩
      · obtain ⟨above, walked, same⟩ := ih on
        exact ⟨above, walk_cons_eq_ok_iff.mpr ⟨standing, Or.inr (Or.inl ⟨up, walked⟩)⟩, same⟩
      · obtain ⟨above, walked, same⟩ := ih on
        exact ⟨above, walk_cons_eq_ok_iff.mpr ⟨standing, Or.inr (Or.inr ⟨own, walked⟩)⟩, same⟩

/-- A directory stands where its path leads. -/
theorem exists_locate_of_isDirectory {cwd : Location} {p : Path}
    (there : s.isDirectory cwd p = .ok true) : ∃ location, s.locate cwd p = .ok location := by
  cases led : s.locate cwd p with
  | ok location => exact ⟨location, rfl⟩
  | error cause =>
      unfold isDirectory probe look at there
      rw [led] at there
      cases cause <;> simp [bind, Except.bind, Except.map] at there

/-- **A path to a child leads to an entry of that name in the directory exactly when the name holds
no slash.** -/
theorem locate_child_eq_iff {cwd above location : Location} {dir : Path} {name ending : String}
    (ends : IsEnding ending) (there : s.locate cwd dir = .ok above)
    (led : s.locate cwd (dir.child (name ++ ending)) = .ok location) :
    location = above ++ [name ++ ending] ↔ '/' ∉ name.toList := by
  have walked := (walk_of_locate led).2
  constructor
  · intro child
    obtain ⟨front, last, flat, parts⟩ := Path.exists_parts_child ends dir name
    rw [parts] at walked
    obtain ⟨_, _, same⟩ := exists_of_walk_append (ends.append_ne (by decide) last)
      (ends.append_ne (by decide) last) (ends.append_ne (by decide) last) walked
    rw [child, List.append_singleton_inj] at same
    rwa [(String.append_left_inj ending).mp same.2]
  · intro flat
    rw [Path.child_of_flat ends dir flat] at walked
    obtain ⟨other, before, same⟩ := exists_of_walk_append (ends.append_ne (by decide) name)
      (ends.append_ne (by decide) name) (ends.append_ne (by decide) name) walked
    rw [(walk_of_locate there).2] at before
    rw [same, Except.ok.inj before]

end Store

end Files

end CommandDocs

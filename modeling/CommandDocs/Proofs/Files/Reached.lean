import CommandDocs.Proofs.Files.Frames
import Mathlib.Algebra.Ring.Nat

/-!
# Locations that are reached

A location is reached if it leads from the root through directories.  A walk from a reached
location ends at a reached one, and its names alone lead there again from the root.
-/

namespace CommandDocs.Files

/-- The size of parts between slashes, and one slash more. -/
theorem Path.utf8ByteSize_intercalate {parts : List String} (shown : parts ≠ []) :
    ("/".intercalate parts).utf8ByteSize + 1 =
      (parts.map fun part => part.utf8ByteSize + 1).sum := by
  induction parts with
  | nil => exact absurd rfl shown
  | cons part rest ih =>
      cases rest with
      | nil => simp
      | cons next rest =>
          rw [String.intercalate_cons_cons, String.utf8ByteSize_append,
            String.utf8ByteSize_append, List.map_cons, List.sum_cons,
            ← ih (List.cons_ne_nil _ _)]
          have slash : "/".utf8ByteSize = 1 := by decide
          omega

namespace Store

/-- Whether a location leads from the root through directories. -/
inductive Reached (s : Store) : Location → Prop where
  | root : Reached s []
  | child {here : Location} {name : String} (above : Reached s here)
      (standing : s.at? here = some .directory) (own : IsName name)
      (clean : name.contains '\x00' = false) : Reached s (here ++ [name])

theorem contains_null_eq_false {name : String} (clean : '\x00' ∉ name.toList) :
    name.contains '\x00' = false := by
  rw [String.contains_char_eq, decide_eq_false clean]

theorem any_null_eq_false_iff {parts : List String} :
    (parts.any fun part => part.contains '\x00') = false ↔
      ∀ part ∈ parts, part.contains '\x00' = false := by
  simp only [List.any_eq_false, Bool.not_eq_true]

theorem walk_append {s : Store} {here middle location : Location} {first second : List String}
    (led : s.walk here first = .ok middle) (onward : s.walk middle second = .ok location) :
    s.walk here (first ++ second) = .ok location := by
  induction first generalizing here with
  | nil =>
      cases led
      exact onward
  | cons part rest ih =>
      obtain ⟨standing, moved⟩ := walk_cons_eq_ok_iff.mp led
      refine walk_cons_eq_ok_iff.mpr ⟨standing, ?_⟩
      rcases moved with ⟨stays, on⟩ | ⟨up, on⟩ | ⟨own, on⟩
      · exact Or.inl ⟨stays, ih on⟩
      · exact Or.inr (Or.inl ⟨up, ih on⟩)
      · exact Or.inr (Or.inr ⟨own, ih on⟩)

namespace Reached

variable {s t : Store} {here location : Location}

theorem mono (kept : KeepsDirectories s t) (reached : Reached s location) : Reached t location := by
  induction reached with
  | root => exact .root
  | child above standing own clean ih => exact ih.child (kept _ standing) own clean

theorem dropLast (reached : Reached s location) : Reached s location.dropLast := by
  cases reached with
  | root => exact .root
  | child above standing own clean =>
      rw [List.dropLast_concat]
      exact above

/-- The names of a reached location can be looked up. -/
theorem legal (reached : Reached s location) :
    ∀ name ∈ location, IsName name ∧ name.contains '\x00' = false := by
  induction reached with
  | root => simp
  | child above standing own clean ih =>
      intro name member
      rcases List.mem_append.mp member with before | last
      · exact ih name before
      · rw [List.mem_singleton.mp last]
        exact ⟨own, clean⟩

theorem isName (reached : Reached s location) : ∀ name ∈ location, IsName name :=
  fun name member => (reached.legal name member).1

theorem walk {parts : List String} (reached : Reached s here)
    (clean : ∀ part ∈ parts, part.contains '\x00' = false)
    (led : s.walk here parts = .ok location) : Reached s location := by
  induction parts generalizing here with
  | nil =>
      cases led
      exact reached
  | cons part rest ih =>
      obtain ⟨free, others⟩ := List.forall_mem_cons.mp clean
      obtain ⟨standing, ⟨_, on⟩ | ⟨_, on⟩ | ⟨own, on⟩⟩ := walk_cons_eq_ok_iff.mp led
      · exact ih reached others on
      · exact ih reached.dropLast others on
      · exact ih (reached.child standing own free) others on

/-- The names of a reached location lead there. -/
theorem walk_self (reached : Reached s location) : s.walk [] location = .ok location := by
  induction reached with
  | root => rfl
  | child above standing own clean ih =>
      refine walk_append ih ?_
      exact walk_cons_eq_ok_iff.mpr ⟨standing, Or.inr (Or.inr ⟨own, rfl⟩)⟩

/-- A reached location is found by its own path, unless that is too long. -/
theorem locate (reached : Reached s location) (cwd : Location)
    (short : (Path.text ⟨.root, location⟩).utf8ByteSize ≤ pathLimit) :
    s.locate cwd ⟨.root, location⟩ = .ok location := by
  have free := any_null_eq_false_iff.mpr fun name member => (reached.legal name member).2
  unfold Store.locate
  rw [free, if_neg (Nat.not_lt.mpr short)]
  exact reached.walk_self

end Reached

/-- A path that is too long cannot be asked for. -/
theorem exists?_of_long {s : Store} {cwd : Location} {p : Path}
    (clean : ∀ part ∈ p.parts, part.contains '\x00' = false)
    (long : pathLimit < p.text.utf8ByteSize) :
    s.exists? cwd p = .error ⟨.nameTooLong, p.text⟩ := by
  unfold exists? probe look locate
  rw [any_null_eq_false_iff.mpr clean, if_pos long]
  rfl

/-- A path that leads somewhere holds no null byte, and is walked from its start. -/
theorem walk_of_locate {s : Store} {cwd location : Location} {p : Path}
    (led : s.locate cwd p = .ok location) :
    (∀ part ∈ p.parts, part.contains '\x00' = false) ∧
      s.walk (if p.start == .here then cwd else []) p.parts = .ok location := by
  unfold locate at led
  split at led
  · cases led
  · rename_i free
    split at led
    · cases led
    · exact ⟨any_null_eq_false_iff.mp (Bool.eq_false_iff.mpr free), led⟩

/-- A short path without null bytes leads where its parts do. -/
theorem locate_of_walk {s : Store} {cwd : Location} {p : Path} {place : Except Cause Location}
    (clean : ∀ part ∈ p.parts, '\x00' ∉ part.toList) (short : p.text.utf8ByteSize ≤ pathLimit)
    (led : s.walk (if p.start == .here then cwd else []) p.parts = place) :
    s.locate cwd p = place := by
  have free := any_null_eq_false_iff.mpr fun part member =>
    contains_null_eq_false (clean part member)
  rw [locate, free, if_neg Bool.false_ne_true, if_neg (Nat.not_lt.mpr short)]
  exact led

/-! ## The working directory -/

section Here

variable {s : Store} {cwd : Location} (standing : s.at? cwd = some .directory)
include standing

/-- A name leads to the entry of that name in the working directory. -/
theorem locate_name {name : String} (own : IsName name) (clean : name.contains '\x00' = false) :
    s.locate cwd ⟨.here, [name]⟩ = .ok (cwd ++ [name]) := by
  have text : Path.text ⟨.here, [name]⟩ = name := by
    simp [Path.text, Path.startText]
  have short : ¬name.utf8ByteSize > pathLimit :=
    Nat.not_lt.mpr (Nat.le_trans own.short (by decide))
  unfold locate
  rw [text, if_neg short]
  simp only [List.any_cons, clean, List.any_nil, Bool.or_false, Bool.false_eq_true, if_false]
  exact walk_cons_eq_ok_iff.mpr ⟨standing, Or.inr (Or.inr ⟨own, rfl⟩)⟩

/-- The working directory need not be made. -/
theorem makeDirectories_here : s.makeDirectories cwd ⟨.here, []⟩ = (s, none) := by
  have led : s.locate cwd ⟨.here, []⟩ = .ok cwd := rfl
  simp [makeDirectories, makeParents, makeUnless, makeOne, isDirectory, probe, look, led, standing,
    bind, Except.bind, Except.map, Fault.isRefusal]

end Here

end Store

end CommandDocs.Files

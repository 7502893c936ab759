import CommandDocs.Toml.Layout.Block
import Mathlib.Data.List.Infix
import Mathlib.Data.Fintype.Basic

/-!
# Headers in order

A header goes back to a table when a header outside of the table stands between it and an earlier
one of the table.  This is harmless as long as no array of tables is gone back to or passed by.
-/

namespace CommandDocs.Toml.Layout

/-- A header as it is seen from some table: the rest of its key, and whether it opens an item of an
array. -/
structure Head where
  parts : List Part
  array : Bool

namespace Head

def path (head : Head) : List (List Nat) :=
  head.parts.map Part.name

/-- The header as it is seen from the table around. -/
def under (part : Part) (head : Head) : Head :=
  ⟨part :: head.parts, head.array⟩

theorem path_under (part : Part) (head : Head) :
    (head.under part).path = part.name :: head.path :=
  rfl

end Head

/-- Whether a table stands around another one, given their paths. -/
def Encloses (outer inner : List (List Nat)) : Prop :=
  outer <+: inner ∧ outer ≠ inner

instance (outer inner : List (List Nat)) : Decidable (Encloses outer inner) :=
  inferInstanceAs (Decidable (_ ∧ _))

theorem Encloses.trans {outer path inner : List (List Nat)} (first : Encloses outer path)
    (second : Encloses path inner) : Encloses outer inner := by
  refine ⟨first.1.trans second.1, ?_⟩
  rintro rfl
  exact first.2 (first.1.eq_of_length_le second.1.length_le)

theorem encloses_cons {name : List Nat} {outer inner : List (List Nat)} :
    Encloses (name :: outer) (name :: inner) ↔ Encloses outer inner := by
  simp [Encloses, List.cons_prefix_cons]

/-- Whether it is harmless that one header comes after another one, with some headers in between.
When it goes back to a table of the other one, and no table around that has been opened in between,
then this table is no array of tables, and neither is a table beside it that has been opened in
between. -/
def Harmless (first : Head) (between : List Head) (last : Head) : Prop :=
  ∀ path, path ≠ [] → path <+: first.path → path <+: last.path →
    (∀ head ∈ between, ¬Encloses head.path path) →
      ∀ head ∈ between, ¬path <+: head.path →
        (first.array = true → first.path ≠ path) ∧
          (head.array = true → head.path.dropLast ≠ path.dropLast)

/-- Whether headers go back to tables only in a harmless way. -/
def InOrder : List Head → Prop
  | [] => True
  | first :: rest =>
      (∀ between last behind, rest = between ++ last :: behind → Harmless first between last) ∧
        InOrder rest

section Decide

variable {first last : Head} {between rest : List Head}

theorem harmless_iff : Harmless first between last ↔ ∀ path ∈ first.path.inits, path ≠ [] →
    path <+: last.path → (∀ head ∈ between, ¬Encloses head.path path) →
      ∀ head ∈ between, ¬path <+: head.path →
        (first.array = true → first.path ≠ path) ∧
          (head.array = true → head.path.dropLast ≠ path.dropLast) := by
  simp only [Harmless, List.mem_inits]
  exact forall_congr' fun path => ⟨fun all starts some => all some starts,
    fun all some starts => all starts some⟩

instance : Decidable (Harmless first between last) :=
  decidable_of_iff _ harmless_iff.symm

theorem inOrder_cons_iff : InOrder (first :: rest) ↔
    (∀ i : Fin rest.length, Harmless first (rest.take i) rest[i]) ∧ InOrder rest := by
  rw [InOrder]
  refine and_congr_left fun _ => ⟨fun all i => ?_, ?_⟩
  · exact all (rest.take i) rest[i] (rest.drop (i + 1)) (by simp)
  · rintro all between last behind rfl
    have own := all ⟨between.length, by simp⟩
    simpa using own

end Decide

instance decidableInOrder : (heads : List Head) → Decidable (InOrder heads)
  | [] => inferInstanceAs (Decidable True)
  | _ :: rest =>
      have : Decidable (InOrder rest) := decidableInOrder rest
      decidable_of_iff _ inOrder_cons_iff.symm

theorem Harmless.of_tables {first last : Head} {between : List Head} (own : first.array = false)
    (others : ∀ head ∈ between, head.array = false) : Harmless first between last := by
  intro path _ _ _ _ head member _
  simp [own, others head member]

theorem inOrder_of_tables {heads : List Head} (tables : ∀ head ∈ heads, head.array = false) :
    InOrder heads := by
  induction heads with
  | nil => trivial
  | cons first rest ih =>
      obtain ⟨own, others⟩ := List.forall_mem_cons.mp tables
      refine ⟨?_, ih others⟩
      rintro between last behind rfl
      exact .of_tables own fun head member => others head (List.mem_append_left _ member)

/-- Headers in a table are harmless as they are seen from it. -/
theorem Harmless.of_under {part : Part} {first last : Head} {between : List Head}
    (harmless : Harmless (first.under part) (between.map (Head.under part)) (last.under part))
    (shown : ∀ head ∈ between, head.parts ≠ []) : Harmless first between last := by
  intro path some starts ends apart head member outside
  have filled : head.path ≠ [] := by simpa [Head.path] using shown head member
  have free : ∀ head ∈ between.map (Head.under part), ¬Encloses head.path (part.name :: path) := by
    refine List.forall_mem_map.mpr fun other among => ?_
    rw [Head.path_under, encloses_cons]
    exact apart other among
  have away : ¬part.name :: path <+: (head.under part).path := by
    rw [Head.path_under, List.cons_prefix_cons]
    exact fun both => outside both.2
  obtain ⟨table, beside⟩ := harmless (part.name :: path) (List.cons_ne_nil _ _)
    (List.cons_prefix_cons.mpr ⟨rfl, starts⟩) (List.cons_prefix_cons.mpr ⟨rfl, ends⟩) free
    (head.under part) (List.mem_map_of_mem member) away
  refine ⟨fun array same => table array (by rw [Head.path_under, same]), fun array same => ?_⟩
  refine beside array ?_
  rw [Head.path_under, List.dropLast_cons_of_ne_nil filled, List.dropLast_cons_of_ne_nil some, same]

/-- A header of a table within another one can be left out between two others, if a header of the
outer table stays. -/
theorem Harmless.skip {first head inner last : Head} {front back : List Head}
    (harmless : Harmless first (front ++ inner :: back) last) (around : head ∈ first :: front)
    (within : Encloses head.path inner.path) : Harmless first (front ++ back) last := by
  intro path some starts ends apart other member outside
  refine harmless path some starts ends (fun table among encloses => ?_) other ?_ outside
  · rcases List.mem_append.mp among with early | late
    · exact apart table (List.mem_append_left _ early) encloses
    · rcases List.mem_cons.mp late with rfl | late
      · have outer := within.trans encloses
        rcases List.mem_cons.mp around with rfl | early
        · exact outer.2 (outer.1.eq_of_length_le starts.length_le)
        · exact apart head (List.mem_append_left _ early) outer
      · exact apart table (List.mem_append_right _ late) encloses
  · rw [List.mem_append] at member ⊢
    exact member.imp_right (List.mem_cons_of_mem inner)

namespace InOrder

variable {heads front back below : List Head} {head : Head} {part : Part}

theorem of_append_right (ordered : InOrder (front ++ heads)) : InOrder heads := by
  induction front with
  | nil => exact ordered
  | cons first front ih => exact ih ordered.2

/-- Headers in a table are in order as they are seen from it. -/
theorem of_under (ordered : InOrder (heads.map (Head.under part)))
    (shown : ∀ head ∈ heads, head.parts ≠ []) : InOrder heads := by
  induction heads with
  | nil => trivial
  | cons first rest ih =>
      obtain ⟨-, others⟩ := List.forall_mem_cons.mp shown
      refine ⟨?_, ih ordered.2 others⟩
      rintro between last behind rfl
      refine Harmless.of_under (ordered.1 (between.map (Head.under part)) (last.under part)
        (behind.map (Head.under part)) (by simp)) fun head member => ?_
      exact others head (List.mem_append_left _ member)

/-- A header in a table can be left out after that of the table. -/
theorem skip_one {inner : Head} (ordered : InOrder (front ++ head :: inner :: back))
    (within : Encloses head.path inner.path) : InOrder (front ++ head :: back) := by
  induction front with
  | nil =>
      refine ⟨?_, ordered.2.2⟩
      rintro between last behind rfl
      have whole : Harmless head ([] ++ inner :: between) last :=
        ordered.1 (inner :: between) last behind rfl
      exact whole.skip List.mem_cons_self within
  | cons first front ih =>
      refine ⟨fun between last behind split => ?_, ih ordered.2⟩
      have whole : (front ++ [head]) ++ back = between ++ last :: behind := by simpa using split
      obtain ⟨rest, rfl, rfl⟩ | ⟨rest, same, tail⟩ := List.append_eq_append_iff.mp whole
      · exact Harmless.skip (ordered.1 (front ++ [head] ++ inner :: rest) last behind (by simp))
          (by simp) within
      · cases rest with
        | nil =>
            obtain rfl : between = front ++ [head] := by simpa using same.symm
            obtain rfl : back = last :: behind := by simpa using tail.symm
            exact List.append_nil (front ++ [head]) ▸ Harmless.skip
              (ordered.1 (front ++ [head] ++ inner :: []) last behind (by simp)) (by simp) within
        | cons next rest =>
            obtain ⟨rfl, rfl⟩ := List.cons.inj tail
            refine ordered.1 between last (rest ++ inner :: back) ?_
            have longer := congrArg (· ++ inner :: back) same
            simpa using longer

/-- Headers in a table can be left out after that of the table. -/
theorem skip (ordered : InOrder (front ++ head :: (below ++ back)))
    (within : ∀ inner ∈ below, Encloses head.path inner.path) :
    InOrder (front ++ head :: back) := by
  induction below with
  | nil => exact ordered
  | cons inner below ih =>
      obtain ⟨own, others⟩ := List.forall_mem_cons.mp within
      exact ih (ordered.skip_one own) others

theorem of_append_left (ordered : InOrder (heads ++ back)) : InOrder heads := by
  induction heads with
  | nil => trivial
  | cons first rest ih =>
      refine ⟨?_, ih ordered.2⟩
      rintro between last behind rfl
      exact ordered.1 between last (behind ++ back) (by simp)

end InOrder

end CommandDocs.Toml.Layout

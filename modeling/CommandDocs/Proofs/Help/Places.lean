import Mathlib.Data.List.Forall2

/-!
# Places in a list

A reader says what can be read at a place of a list, from the elements there and behind it.  A
value may be read at the first place where one can be, values may be read at all such places in
their order, and elements may be taken up to the first place where a list stops.
-/

namespace CommandDocs.Help

variable {α β : Type}

def First (reads : List α → β → Prop) (l : List α) (value : β) : Prop :=
  ∃ i, reads (l.drop i) value ∧ ∀ j < i, ∀ other, ¬reads (l.drop j) other

/-- What is read first, or a fixed value where nothing can be read at any place. -/
def FirstOr (reads : List α → β → Prop) (fallback : β) (l : List α) (value : β) : Prop :=
  First reads l value ∨ (∀ i other, ¬reads (l.drop i) other) ∧ value = fallback

def InOrder (marks : List α → Prop) (reads : List α → β → Prop) (l : List α) (values : List β) :
    Prop :=
  ∃ places : List Nat, places.Pairwise (· < ·) ∧ (∀ i, i ∈ places ↔ marks (l.drop i)) ∧
    List.Forall₂ (fun i value => reads (l.drop i) value) places values

/-- The elements before the first place where a list stops; they are all if it never does. -/
def UpTo (stops : List α → Prop) (l kept : List α) : Prop :=
  ∃ rest, l = kept ++ rest ∧ (∀ i < kept.length, ¬stops (l.drop i)) ∧ (rest = [] ∨ stops rest)

/-- A list with a first element that has a property. -/
def Starts (property : α → Prop) (l : List α) : Prop :=
  ∃ a ∈ l.head?, property a

/-! ## Taking one element after another -/

section Reading

variable {reads : List α → β → Prop} {fallback : β} {a : α} {l : List α} {value : β}
  {values : List β}

theorem firstOr_nil (vacant : ∀ other, ¬reads [] other) : FirstOr reads fallback [] fallback :=
  Or.inr ⟨fun i other => by rw [List.drop_nil]; exact vacant other, rfl⟩

theorem firstOr_of_reads (read : reads l value) : FirstOr reads fallback l value :=
  Or.inl ⟨0, read, fun _ before => absurd before (Nat.not_lt_zero _)⟩

theorem FirstOr.cons (vacant : ∀ other, ¬reads (a :: l) other)
    (later : FirstOr reads fallback l value) : FirstOr reads fallback (a :: l) value := by
  rcases later with ⟨i, read, least⟩ | ⟨never, same⟩
  · refine Or.inl ⟨i + 1, read, fun j before => ?_⟩
    cases j with
    | zero => exact vacant
    | succ j => exact least j (Nat.lt_of_succ_lt_succ before)
  · refine Or.inr ⟨fun i => ?_, same⟩
    cases i with
    | zero => exact vacant
    | succ i => exact never i

variable {marks : List α → Prop}

theorem inOrder_nil (unmarked : ¬marks []) : InOrder marks reads [] [] := by
  refine ⟨[], .nil, fun i => ?_, .nil⟩
  rw [List.drop_nil]
  simp [unmarked]

/-- The places of a longer list are one further on. -/
theorem succ_mem_places {places : List Nat} (exact : ∀ i, i ∈ places ↔ marks (l.drop i)) (i : Nat) :
    i + 1 ∈ places.map Nat.succ ↔ marks ((a :: l).drop (i + 1)) := by
  rw [List.drop_succ_cons, ← exact i]
  simp

theorem pairwise_map_succ {places : List Nat} (sorted : places.Pairwise (· < ·)) :
    (places.map Nat.succ).Pairwise (· < ·) :=
  List.pairwise_map.mpr (sorted.imp Nat.succ_lt_succ)

theorem InOrder.cons_of_marks (marked : marks (a :: l)) (read : reads (a :: l) value)
    (later : InOrder marks reads l values) : InOrder marks reads (a :: l) (value :: values) := by
  obtain ⟨places, sorted, exact, results⟩ := later
  refine ⟨0 :: places.map Nat.succ, ?_, fun i => ?_,
    .cons read (List.forall₂_map_left_iff.mpr results)⟩
  · refine List.pairwise_cons.mpr ⟨fun i member => ?_, pairwise_map_succ sorted⟩
    obtain ⟨j, _, rfl⟩ := List.mem_map.mp member
    exact Nat.succ_pos j
  · cases i with
    | zero => exact ⟨fun _ => marked, fun _ => List.mem_cons_self⟩
    | succ i =>
        rw [← succ_mem_places exact i, List.mem_cons]
        simp

theorem InOrder.cons (unmarked : ¬marks (a :: l)) (later : InOrder marks reads l values) :
    InOrder marks reads (a :: l) values := by
  obtain ⟨places, sorted, exact, results⟩ := later
  refine ⟨places.map Nat.succ, pairwise_map_succ sorted, fun i => ?_,
    List.forall₂_map_left_iff.mpr results⟩
  cases i with
  | zero => simp [unmarked]
  | succ i => exact succ_mem_places exact i

end Reading

section Stopping

variable {stops : List α → Prop} {a : α} {l kept : List α}

theorem upTo_nil : UpTo stops [] [] :=
  ⟨[], rfl, fun _ before => absurd before (Nat.not_lt_zero _), Or.inl rfl⟩

theorem upTo_of_stops (stop : stops l) : UpTo stops l [] :=
  ⟨l, rfl, fun _ before => absurd before (Nat.not_lt_zero _), Or.inr stop⟩

theorem UpTo.cons (goes : ¬stops (a :: l)) (later : UpTo stops l kept) :
    UpTo stops (a :: l) (a :: kept) := by
  obtain ⟨rest, rfl, least, ends⟩ := later
  refine ⟨rest, rfl, fun i before => ?_, ends⟩
  cases i with
  | zero => exact goes
  | succ i => exact least i (Nat.lt_of_succ_lt_succ before)

theorem starts_cons {property : α → Prop} : Starts property (a :: l) ↔ property a := by
  simp [Starts]

/-- A run of a class goes up to the first element outside it. -/
theorem upTo_takeWhile {p : α → Bool} {property : α → Prop}
    (outside : ∀ a, p a = false ↔ property a) (l : List α) :
    UpTo (Starts property) l (l.takeWhile p) := by
  induction l with
  | nil => exact upTo_nil
  | cons a l ih =>
      cases inside : p a with
      | false =>
          rw [List.takeWhile_cons_of_neg (by simp [inside])]
          exact upTo_of_stops (starts_cons.mpr ((outside a).mp inside))
      | true =>
          rw [List.takeWhile_cons_of_pos inside]
          refine ih.cons fun stop => ?_
          rw [(outside a).mpr (starts_cons.mp stop)] at inside
          cases inside

end Stopping

end CommandDocs.Help

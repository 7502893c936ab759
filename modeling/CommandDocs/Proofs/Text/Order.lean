import CommandDocs.Text.Fold
import Mathlib.Data.Char
import Mathlib.Data.List.Lex
import Mathlib.Data.Prod.Lex

/-!
# Orders of names

Texts are compared by code points, and names in a listing by their folded form first.  Both are
linear orders, and no two names have the same place in a listing.  What is sorted by a key without
repetition is known from its members alone.
-/

namespace CommandDocs.Text

/-- What names are listed by: the folded form, and among equal ones the name itself. -/
def listingKey (name : String) : List Char ×ₗ List Char :=
  toLex (caseFold name.toList, name.toList)

theorem codePointLe_iff {s t : List Char} : codePointLe s t = true ↔ s ≤ t := by
  rw [le_iff_eq_or_lt]
  induction s generalizing t with
  | nil => cases t <;> simp [codePointLe]
  | cons a s ih =>
      cases t with
      | nil => simp [codePointLe]
      | cons b t =>
          have less : a.toNat < b.toNat ↔ a < b := Iff.rfl
          simp only [codePointLe, Bool.or_eq_true, decide_eq_true_eq, Bool.and_eq_true,
            beq_iff_eq, ih, List.cons_lt_cons_iff, List.cons.injEq, less, Char.toNat_inj]
          tauto

theorem listingLe_iff {name other : String} :
    listingLe name.toList other.toList = true ↔ listingKey name ≤ listingKey other := by
  rw [listingLe, listingKey, listingKey, Prod.Lex.toLex_le_toLex]
  by_cases same : caseFold name.toList = caseFold other.toList
  · simp [same, codePointLe_iff]
  · simp [same, codePointLe_iff, Std.lt_iff_le_and_ne]

theorem listingKey_inj {name other : String} :
    listingKey name = listingKey other ↔ name = other := by
  constructor
  · intro same
    exact String.toList_inj.mp (congrArg (fun key => (ofLex key).2) same)
  · rintro rfl
    rfl

/-! ## Sorting by a key -/

section Key

variable {α β : Type} [LinearOrder β] {key : α → β} {le : α → α → Bool}
  (keyed : ∀ a b, le a b = true ↔ key a ≤ key b)

section

include keyed

theorem trans_key (a b c : α) (first : le a b = true) (second : le b c = true) : le a c = true :=
  (keyed a c).mpr (((keyed a b).mp first).trans ((keyed b c).mp second))

theorem total_key (a b : α) : (le a b || le b a) = true := by
  rw [Bool.or_eq_true, keyed, keyed]
  exact le_total _ _

theorem pairwise_mergeSort_key (items : List α) :
    (items.mergeSort le).Pairwise fun a b => key a ≤ key b :=
  (List.pairwise_mergeSort (trans_key keyed) (total_key keyed) items).imp fun h =>
    (keyed _ _).mp h

theorem strictly_mergeSort_key {items : List α} (distinct : (items.map key).Nodup) :
    (items.mergeSort le).Pairwise fun a b => key a < key b := by
  have apart : (items.mergeSort le).Pairwise fun a b => key a ≠ key b := by
    rw [← List.pairwise_map]
    exact ((List.mergeSort_perm items le).map key).nodup_iff.mpr distinct
  exact (pairwise_mergeSort_key keyed items).imp₂ (fun a b => lt_of_le_of_ne) apart

/-- An item is sorted in behind the smaller ones and before all others. -/
theorem mergeSort_cons_key (a : α) (rest : List α) :
    (a :: rest).mergeSort le =
        (rest.mergeSort le).filter (fun b => !le a b) ++ a :: (rest.mergeSort le).filter (le a) ∧
      (rest.mergeSort le).filter (fun b => !le a b) ++ (rest.mergeSort le).filter (le a) =
        rest.mergeSort le := by
  have sorted := pairwise_mergeSort_key keyed (a :: rest)
  obtain ⟨smaller, others, whole, parts, before⟩ :=
    List.mergeSort_cons (trans_key keyed) (total_key keyed) a rest
  rw [whole, List.pairwise_append, List.pairwise_cons] at sorted
  have after : ∀ b ∈ others, le a b = true := fun b member =>
    (keyed a b).mpr (sorted.2.1.1 b member)
  have keptBefore : smaller.filter (fun b => !le a b) = smaller := List.filter_eq_self.mpr before
  have keptAfter : others.filter (le a) = others := List.filter_eq_self.mpr after
  have droppedBefore : smaller.filter (le a) = [] :=
    List.filter_eq_nil_iff.mpr fun b member => by simpa using before b member
  have droppedAfter : others.filter (fun b => !le a b) = [] :=
    List.filter_eq_nil_iff.mpr fun b member => by simp [after b member]
  rw [whole, parts, List.filter_append, List.filter_append, keptBefore, keptAfter, droppedBefore,
    droppedAfter, List.append_nil, List.nil_append]
  exact ⟨rfl, rfl⟩

/-- Items are left out before sorting as they are after it. -/
theorem filter_mergeSort_key (keep : α → Bool) (items : List α) :
    (items.mergeSort le).filter keep = (items.filter keep).mergeSort le := by
  induction items with
  | nil => simp
  | cons a rest ih =>
      have swapped (own : α → Bool) : ((rest.mergeSort le).filter own).filter keep =
          ((rest.filter keep).mergeSort le).filter own := by
        rw [← ih, List.filter_filter, List.filter_filter]
        exact List.filter_congr fun b _ => Bool.and_comm _ _
      obtain ⟨placed, joined⟩ := mergeSort_cons_key keyed a (rest.filter keep)
      rw [(mergeSort_cons_key keyed a rest).1, List.filter_append, List.filter_cons,
        List.filter_cons, swapped, swapped]
      cases keep a with
      | true => exact placed.symm
      | false => exact joined

end

variable (key) in
/-- A strictly sorted list is known from its members. -/
theorem eq_of_strictly {first second : List α} (sorted : first.Pairwise fun a b => key a < key b)
    (other : second.Pairwise fun a b => key a < key b)
    (same : ∀ a, a ∈ first ↔ a ∈ second) : first = second := by
  have perm : first.Perm second :=
    (List.perm_ext_iff_of_nodup (sorted.imp fun less same => less.ne (by rw [same]))
      (other.imp fun less same => less.ne (by rw [same]))).mpr same
  exact perm.eq_of_pairwise (fun a b _ _ less more => absurd less more.asymm) sorted other

end Key

end CommandDocs.Text

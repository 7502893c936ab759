import CommandDocs.Text.Line
import Mathlib.Data.List.DropRight
import Mathlib.Data.List.TakeWhile

/-!
# Splitting and joining lines

Splitting a text at a separator gives pieces without it, and undoes the joining of such
pieces.  A text without surrounding blanks is its own trimmed form, and blanks on either side
of a text leave its trimmed form alone.
-/

namespace CommandDocs.Text

/-! ## Pieces -/

theorem splitAt_of_not_mem {separator : Char} {s : List Char} (free : separator ∉ s) :
    splitAt separator s = [s] := by
  induction s with
  | nil => rfl
  | cons c rest ih =>
      have hc : (c == separator) = false := by
        simpa using fun same : c = separator => free (by simp [same])
      have hrest : splitAt separator rest = [rest] :=
        ih fun member => free (List.mem_cons_of_mem c member)
      simp [splitAt, hc, hrest]

/-- The first separator ends the first piece. -/
theorem splitAt_append_cons {separator : Char} {s : List Char} (free : separator ∉ s)
    (rest : List Char) :
    splitAt separator (s ++ separator :: rest) = s :: splitAt separator rest := by
  induction s with
  | nil => simp [splitAt]
  | cons c s ih =>
      have hc : (c == separator) = false := by
        simpa using fun same : c = separator => free (by simp [same])
      have hs := ih fun member => free (List.mem_cons_of_mem c member)
      simp [splitAt, hc, hs]

theorem not_mem_of_mem_splitAt {separator : Char} {s piece : List Char}
    (member : piece ∈ splitAt separator s) : separator ∉ piece := by
  induction s generalizing piece with
  | nil =>
      simp only [splitAt, List.mem_singleton] at member
      simp [member]
  | cons c rest ih =>
      unfold splitAt at member
      split at member
      · rcases List.mem_cons.mp member with rfl | member
        · simp
        · exact ih member
      · rename_i hc
        have distinct : ¬separator = c := fun same => hc (by simp [same])
        cases hrest : splitAt separator rest with
        | nil => exact absurd hrest (splitAt_ne_nil separator rest)
        | cons first others =>
            rw [hrest] at member ih
            rcases List.mem_cons.mp member with rfl | member
            · simpa [distinct] using ih List.mem_cons_self
            · exact ih (List.mem_cons_of_mem _ member)

theorem joinWith_cons {separator : Char} (piece : List Char) {pieces : List (List Char)}
    (nonempty : pieces ≠ []) :
    joinWith separator (piece :: pieces) = piece ++ separator :: joinWith separator pieces := by
  cases pieces with
  | nil => exact absurd rfl nonempty
  | cons next others => rfl

/-- Splitting undoes joining when no piece holds the separator. -/
theorem splitAt_joinWith {separator : Char} {pieces : List (List Char)} (nonempty : pieces ≠ [])
    (free : ∀ piece ∈ pieces, separator ∉ piece) :
    splitAt separator (joinWith separator pieces) = pieces := by
  induction pieces with
  | nil => exact absurd rfl nonempty
  | cons piece pieces ih =>
      have hpiece := free piece List.mem_cons_self
      by_cases last : pieces = []
      · subst last
        exact splitAt_of_not_mem hpiece
      · rw [joinWith_cons piece last, splitAt_append_cons hpiece,
          ih last fun other member => free other (List.mem_cons_of_mem _ member)]

/-- A character of a joined text is the separator or stands in a piece. -/
theorem mem_joinWith {separator c : Char} {pieces : List (List Char)}
    (member : c ∈ joinWith separator pieces) : c = separator ∨ ∃ piece ∈ pieces, c ∈ piece := by
  induction pieces with
  | nil => simp [joinWith] at member
  | cons piece pieces ih =>
      by_cases last : pieces = []
      · subst last
        exact Or.inr ⟨piece, List.mem_cons_self, member⟩
      · rw [joinWith_cons piece last] at member
        rcases List.mem_append.mp member with here | later
        · exact Or.inr ⟨piece, List.mem_cons_self, here⟩
        · rcases List.mem_cons.mp later with same | later
          · exact Or.inl same
          · rcases ih later with same | ⟨other, hother, hc⟩
            · exact Or.inl same
            · exact Or.inr ⟨other, List.mem_cons_of_mem _ hother, hc⟩

theorem joinWith_append {separator : Char} {first second : List (List Char)} (hfirst : first ≠ [])
    (hsecond : second ≠ []) :
    joinWith separator (first ++ second) =
      joinWith separator first ++ separator :: joinWith separator second := by
  induction first with
  | nil => exact absurd rfl hfirst
  | cons piece first ih =>
      by_cases last : first = []
      · subst last
        exact joinWith_cons piece hsecond
      · rw [List.cons_append, joinWith_cons piece (by simp [last]), joinWith_cons piece last,
          ih last, List.append_assoc, List.cons_append]

/-! ## Breaks -/

theorem unifyBreaks_of_not_mem {s : List Char} (free : '\r' ∉ s) : unifyBreaks s = s := by
  induction s with
  | nil => rfl
  | cons c rest ih =>
      simp only [List.mem_cons, not_or] at free
      obtain ⟨distinct, free⟩ := free
      have hc : (c == '\r') = false := by simpa using fun same : c = '\r' => distinct same.symm
      rw [unifyBreaks, ih free, hc]
      · rfl
      · intro _ same
        exact absurd same.symm distinct

theorem dropReturns_of_not_mem {s : List Char} (free : '\r' ∉ s) : dropReturns s = s := by
  induction s with
  | nil => rfl
  | cons c rest ih =>
      simp only [List.mem_cons, not_or] at free
      obtain ⟨distinct, free⟩ := free
      rw [dropReturns, ih free]
      intro _ same
      exact absurd same.symm distinct

/-! ## Cutting -/

variable {p : Char → Bool}

section Cutting

variable {s t : List Char} (inside : ∀ c ∈ s, p c = true) (apart : ∀ c ∈ t.head?, p c = false)
include inside apart

/-- A run of a class is cut off before anything else. -/
theorem takeWhile_append_of_head : (s ++ t).takeWhile p = s := by
  rw [List.takeWhile_append_of_pos inside]
  cases t with
  | nil => simp
  | cons c t => simp [apart c rfl]

theorem dropWhile_append_of_head : (s ++ t).dropWhile p = t := by
  rw [List.dropWhile_append_of_pos inside]
  cases t with
  | nil => rfl
  | cons c t => exact List.dropWhile_cons_of_neg (by simp [apart c rfl])

end Cutting

/-- What follows a run of a class does not start in the class. -/
theorem not_of_mem_head?_dropWhile {s : List Char} {c : Char}
    (first : c ∈ (s.dropWhile p).head?) : p c = false := by
  have outside := List.head?_dropWhile_not p s
  rw [first] at outside
  exact outside

/-! ## Trimming -/

theorem dropEndWhile_append_of_all {s t : List Char} (all : t.all p = true) :
    dropEndWhile p (s ++ t) = dropEndWhile p s := by
  unfold dropEndWhile
  rw [List.reverse_append, List.dropWhile_append_of_pos]
  intro c member
  exact List.all_eq_true.mp all c (List.mem_reverse.mp member)

theorem trimBoth_infix (p : Char → Bool) (s : List Char) : trimBoth p s <:+: s :=
  (List.rdropWhile_prefix p (s.dropWhile p)).isInfix.trans (List.dropWhile_suffix p).isInfix

theorem head?_trimBoth {s : List Char} {c : Char} (first : c ∈ (trimBoth p s).head?) :
    p c = false := by
  obtain ⟨rest, whole⟩ := List.rdropWhile_prefix p (s.dropWhile p)
  have begins : c ∈ (trimBoth p s ++ rest).head? := by
    rw [List.head?_append, first]
    rfl
  rw [trimBoth, dropEndWhile, ← List.rdropWhile, whole] at begins
  exact not_of_mem_head?_dropWhile begins

theorem getLast?_trimBoth {s : List Char} {c : Char} (last : c ∈ (trimBoth p s).getLast?) :
    p c = false := by
  obtain ⟨nonempty, rfl⟩ := List.mem_getLast?_eq_getLast last
  exact Bool.eq_false_iff.mpr (List.rdropWhile_last_not p (s.dropWhile p) nonempty)

theorem trimBoth_append_of_all {s t : List Char} (all : t.all p = true) :
    trimBoth p (s ++ t) = trimBoth p s := by
  unfold trimBoth
  rw [List.dropWhile_append]
  split
  · rename_i blank
    have hs : s.dropWhile p = [] := by simpa using blank
    have ht : t.dropWhile p = [] := List.dropWhile_eq_nil_iff.mpr (List.all_eq_true.mp all)
    rw [hs, ht]
  · exact dropEndWhile_append_of_all all

theorem trimBoth_append_of_all_left {s t : List Char} (all : s.all p = true) :
    trimBoth p (s ++ t) = trimBoth p t := by
  unfold trimBoth
  rw [List.dropWhile_append_of_pos (List.all_eq_true.mp all)]

end CommandDocs.Text

import CommandDocs.Console.Emoji
import CommandDocs.Proofs.Text.Lines

/-!
# Texts and emoji codes

An emoji holds no colon, so replacing a code takes two colons away.  A text that keeps all of its
colons is left as it is.
-/

namespace CommandDocs.Console.Emoji

theorem not_mem_of_mem_emojiNames {name emoji : List Char} (member : (name, emoji) ∈ emojiNames) :
    ':' ∉ emoji := by
  obtain ⟨entry, _, named⟩ := List.mem_filterMap.mp member
  unfold namedEmoji? at named
  split at named
  · rename_i first second divided
    obtain ⟨rfl, rfl⟩ := Prod.mk.inj (Option.some.inj named)
    exact Text.not_mem_of_mem_splitAt (by rw [divided]; simp)
  · cases named

theorem not_mem_splitVariant (code : List Char) : ':' ∉ (splitVariant code).2 := by
  have clean : variants.all (fun variant => !variant.2.contains ':') = true := rfl
  unfold splitVariant
  split
  · rename_i found
    simpa using List.all_eq_true.mp clean _ (List.mem_of_find?_eq_some found)
  · exact List.not_mem_nil

/-- No emoji holds a colon. -/
theorem not_mem_of_ofCode? {code emoji : List Char} (known : ofCode? code = some emoji) :
    ':' ∉ emoji := by
  unfold ofCode? at known
  obtain ⟨found, looked, rfl⟩ := Option.map_eq_some_iff.mp known
  obtain ⟨before, after, whole, _⟩ := List.lookup_eq_some_iff.mp looked
  have member : (Text.lower (splitVariant code).1, found) ∈ emojiNames :=
    whole ▸ List.mem_append_right before List.mem_cons_self
  rw [List.mem_append, not_or]
  exact ⟨not_mem_of_mem_emojiNames member, not_mem_splitVariant code⟩

theorem eq_append_of_upToColon? {s code : List Char} (h : upToColon? s = some code) :
    s = code ++ ':' :: s.drop (code.length + 1) := by
  induction s generalizing code with
  | nil => cases h
  | cons c rest ih =>
      by_cases colon : c = ':'
      · have empty : [] = code := by simpa [upToColon?, colon] using h
        subst empty
        simp [colon]
      · by_cases blank : Text.isBlank c = true
        · simp [upToColon?, colon, blank] at h
        · simp only [upToColon?, beq_iff_eq, colon, blank, if_false] at h
          obtain ⟨inner, found, rfl⟩ := Option.map_eq_some_iff.mp h
          simpa using ih found

/-- A code starts with a colon. -/
theorem colon_of_found {c : Char} {rest code : List Char}
    (found : (if c == ':' then upToColon? rest else none) = some code) :
    c = ':' ∧ upToColon? rest = some code := by
  split at found
  · rename_i colon
    exact ⟨eq_of_beq colon, found⟩
  · cases found

/-- Replacing codes adds no colons, and keeps them all only where it changes nothing. -/
theorem count_replaceFrom (skipped : Nat) (s : List Char) :
    (replaceFrom skipped s).count ':' ≤ (s.drop skipped).count ':' ∧
      ((s.drop skipped).count ':' ≤ (replaceFrom skipped s).count ':' →
        replaceFrom skipped s = s.drop skipped) := by
  fun_induction replaceFrom skipped s with
  | case1 skipped => simp
  | case2 skipped c rest ih => simpa using ih
  | case3 c rest code found ih =>
      obtain ⟨rfl, read⟩ := colon_of_found found
      have cut := eq_append_of_upToColon? read
      obtain ⟨fewer, same⟩ := ih
      generalize replaceFrom (code.length + 1) rest = replaced at fewer same ⊢
      generalize rest.drop (code.length + 1) = later at cut fewer same
      subst cut
      cases known : ofCode? code with
      | none =>
          simp only [shownCode, known, Option.getD_none, List.drop_zero, List.count_append,
            List.count_cons, List.count_nil, beq_self_eq_true, if_true]
          refine ⟨by omega, fun kept => ?_⟩
          rw [same (by omega)]
          simp
      | some emoji =>
          have clean := List.count_eq_zero.mpr (not_mem_of_ofCode? known)
          simp only [shownCode, known, Option.getD_some, List.drop_zero, List.count_append,
            List.count_cons, beq_self_eq_true, if_true, clean]
          exact ⟨by omega, fun kept => by omega⟩
  | case4 c rest unmet ih =>
      obtain ⟨fewer, same⟩ := ih
      simp only [List.drop_zero, List.count_cons] at fewer same ⊢
      exact ⟨by omega, fun kept => by rw [same (by omega)]⟩

theorem count_replace_le (s : List Char) : (replace s).count ':' ≤ s.count ':' :=
  (count_replaceFrom 0 s).1

/-- A text that keeps its colons holds no code of an emoji. -/
theorem replace_eq_of_count_le {s : List Char} (kept : s.count ':' ≤ (replace s).count ':') :
    replace s = s :=
  (count_replaceFrom 0 s).2 kept

theorem replace_of_not_mem {s : List Char} (free : ':' ∉ s) : replace s = s :=
  replace_eq_of_count_le (by rw [List.count_eq_zero.mpr free]; exact Nat.zero_le _)

theorem upToColon?_append_of_not_mem (s : List Char) {t : List Char} (free : ':' ∉ t) :
    upToColon? (s ++ t) = upToColon? s := by
  induction s with
  | nil =>
      induction t with
      | nil => rfl
      | cons c rest ih =>
          rw [List.mem_cons, not_or] at free
          simpa [upToColon?, Ne.symm free.1] using fun _ => ih free.2
  | cons c rest ih => simp only [List.cons_append, upToColon?, ih]

theorem replaceFrom_append_of_not_mem (skipped : Nat) (s : List Char) {t : List Char}
    (free : ':' ∉ t) (inside : skipped ≤ s.length) :
    replaceFrom skipped (s ++ t) = replaceFrom skipped s ++ t := by
  fun_induction replaceFrom skipped s with
  | case1 skipped =>
      obtain rfl : skipped = 0 := by simpa using inside
      exact replace_of_not_mem free
  | case2 skipped c rest ih => exact ih (by simpa using inside)
  | case3 c rest code found ih =>
      obtain ⟨rfl, cut⟩ := colon_of_found found
      have ahead := congrArg List.length (eq_append_of_upToColon? cut)
      simp only [List.length_append, List.length_cons] at ahead
      simp [replaceFrom, upToColon?_append_of_not_mem rest free, cut, ih (by omega)]
  | case4 c rest unmet ih =>
      rw [← upToColon?_append_of_not_mem rest free] at unmet
      rw [List.cons_append, replaceFrom, unmet, ih (Nat.zero_le _)]
      rfl

/-- What stands behind the last colon is left as it is. -/
theorem replace_append_of_not_mem (s : List Char) {t : List Char} (free : ':' ∉ t) :
    replace (s ++ t) = replace s ++ t :=
  replaceFrom_append_of_not_mem 0 s free (Nat.zero_le _)

/-- What stands before the first colon is left as it is. -/
theorem replace_append_of_not_mem_left {s : List Char} (free : ':' ∉ s) (t : List Char) :
    replace (s ++ t) = s ++ replace t := by
  induction s with
  | nil => rfl
  | cons c rest ih =>
      rw [List.mem_cons, not_or] at free
      have other : (c == ':') = false := beq_eq_false_iff_ne.mpr (Ne.symm free.1)
      have read : replace (c :: (rest ++ t)) = c :: replace (rest ++ t) := by
        simp [replace, replaceFrom, other]
      rw [List.cons_append, read, ih free.2, List.cons_append]

end CommandDocs.Console.Emoji

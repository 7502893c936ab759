import CommandDocs.Proofs.Toml.Flat.Rows

/-!
# Bare keys

A name of letters, digits, hyphens and underscores needs no quotes.  Both readers see it as a key
of one part, whatever space follows it.
-/

namespace CommandDocs.Toml

theorem not_gap_of_isBare {c : Char} (bare : isBare c = true) : Text.isGap c = false := by
  refine Bool.eq_false_iff.mpr fun gap => ?_
  simp only [Text.isGap, Bool.or_eq_true, beq_iff_eq] at gap
  rcases gap with rfl | rfl <;> exact absurd bare (by decide)

theorem ne_of_isBare {c d : Char} (bare : isBare c = true) (other : isBare d = false) : c ≠ d := by
  rintro rfl
  rw [bare] at other
  cases other

section Bare

variable {name gap : List Char} (bare : ∀ c ∈ name, isBare c = true) (white : IsSpace gap)
include bare

theorem readKeyPart_bare (shown : name ≠ []) {s : List Char}
    (apart : ∀ c ∈ s.head?, isBare c = false) :
    readKeyPart (name ++ s) = .ok (String.ofList name, s) := by
  obtain ⟨c, rest, rfl⟩ := List.exists_cons_of_ne_nil shown
  have own : isBare c = true := bare c List.mem_cons_self
  rw [readKeyPart, Text.takeWhile_append_of_head bare apart,
    Text.dropWhile_append_of_head bare apart]
  · intro others impossible
    exact ne_of_isBare own (by decide) (List.cons.inj impossible).1
  · intro others impossible
    exact ne_of_isBare own (by decide) (List.cons.inj impossible).1

theorem Layout.trimGaps_bare (shown : name ≠ []) (white : IsSpace gap) :
    Text.trimGaps (name ++ gap) = name := by
  unfold Text.trimGaps
  rw [Text.trimBoth_append_of_all (List.all_eq_true.mpr white)]
  have dark : ∀ c ∈ name, ¬Text.isGap c = true := fun c member => by
    simp [not_gap_of_isBare (bare c member)]
  obtain ⟨c, rest, rfl⟩ := List.exists_cons_of_ne_nil shown
  unfold Text.trimBoth Text.dropEndWhile
  rw [List.dropWhile_cons_of_neg (dark c List.mem_cons_self)]
  have ends : (c :: rest).reverse.dropWhile Text.isGap = (c :: rest).reverse := by
    refine List.dropWhile_eq_self_iff.mpr fun long => ?_
    exact dark _ (List.mem_reverse.mp (List.getElem_mem long))
  rw [ends, List.reverse_reverse]

include white

theorem Layout.readPart_bare (shown : name ≠ []) {stop : Char} (plain : isBare stop = false)
    (dark : Text.isGap stop = false) (rest : List Char) :
    readPart (name ++ gap ++ stop :: rest) =
      .ok (⟨name.map Char.toNat, name ++ gap⟩, stop :: rest) := by
  have inside : ∀ c ∈ name ++ gap, (isBare c || Text.isGap c) = true := by
    intro c member
    rcases List.mem_append.mp member with own | own
    · simp [bare c own]
    · simp [white c own]
  have cut : (name ++ gap ++ stop :: rest).takeWhile (fun c => isBare c || Text.isGap c) =
      name ++ gap := by
    refine Text.takeWhile_append_of_head inside ?_
    intro c opens
    cases opens
    simp [plain, dark]
  have single : ' ' ∉ name := fun member => absurd (bare ' ' member) (by decide)
  have read : readBare (name ++ gap ++ stop :: rest) =
      .ok (⟨name.map Char.toNat, name ++ gap⟩, stop :: rest) := by
    unfold readBare
    simp only [cut, trimGaps_bare bare shown white, List.drop_left]
    simp [shown, single]
  obtain ⟨c, more, rfl⟩ := List.exists_cons_of_ne_nil shown
  have own : isBare c = true := bare c List.mem_cons_self
  have unspaced : ¬Text.isGap c = true := by simp [not_gap_of_isBare own]
  unfold readPart
  simp only [List.cons_append] at read ⊢
  rw [List.dropWhile_cons_of_neg unspaced]
  simp only [beq_iff_eq, ne_of_isBare own (d := '"') (by decide),
    ne_of_isBare own (d := '\'') (by decide), read, Bool.or_eq_true, or_self, if_false]

theorem readKey_bare (shown : name ≠ []) (fuel : Nat) (rest : List Char) :
    readKey (fuel + 1) (name ++ gap ++ '=' :: rest) =
      .ok ([String.ofList name], '=' :: rest) := by
  have apart : ∀ c ∈ (gap ++ '=' :: rest).head?, isBare c = false := by
    intro c opens
    cases gap with
    | nil =>
        cases opens
        decide
    | cons d gap =>
        cases opens
        refine Bool.eq_false_iff.mpr fun own => ?_
        have gapped := white c List.mem_cons_self
        rw [not_gap_of_isBare own] at gapped
        cases gapped
  have after : (gap ++ '=' :: rest).dropWhile Text.isGap = '=' :: rest :=
    dropWhile_space white (not_gap_cons rfl rest)
  rw [List.append_assoc, readKey, readKeyPart_bare bare shown apart]
  simp [after]

theorem Layout.readKey_bare (shown : name ≠ []) (rest : List Char) :
    readKey (name ++ gap ++ '=' :: rest) =
      .ok ([⟨name.map Char.toNat, name ++ gap⟩], '=' :: rest) := by
  unfold readKey depthLimit readParts
  rw [readPart_bare bare white shown (by decide) rfl]
  rfl

end Bare

/-- A name of bare characters is a key, with some space after it. -/
theorem isKey_bare {name : String} (shown : name.toList ≠ [])
    (bare : ∀ c ∈ name.toList, isBare c = true) {gap : List Char} (white : IsSpace gap) :
    IsKey (name.toList ++ gap) name where
  opens := by
    obtain ⟨c, rest, same⟩ := List.exists_cons_of_ne_nil shown
    have own : isBare c = true := bare c (by simp [same])
    refine ⟨c, rest ++ gap, by rw [same, List.cons_append], not_gap_of_isBare own, ?_⟩
    simp [ne_of_isBare own (d := '\n') (by decide), ne_of_isBare own (d := '#') (by decide),
      ne_of_isBare own (d := '[') (by decide)]
  single member := by
    rcases List.mem_append.mp member with own | own
    · exact absurd (bare _ own) (by decide)
    · exact absurd (white _ own) (by decide)
  read fuel rest := by
    have read := readKey_bare bare white shown fuel rest
    rwa [String.ofList_toList] at read
  kept rest := Layout.readKey_bare bare white shown rest

end CommandDocs.Toml

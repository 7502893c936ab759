import CommandDocs.Toml.Collections
import CommandDocs.Toml.Layout.Literal
import CommandDocs.Toml.Written

/-!
# Written strings are read back

Every character is written so that both readers read it back, escaped or as it stands, and no
quote inside a written string ends it.
-/

namespace CommandDocs.Toml

/-! ## One character -/

def isControl (c : Char) : Bool :=
  c.toNat < 32 || c.toNat == 127

theorem forall_isControl {P : Char → Prop}
    (each : ∀ n : Fin 128, (n.val < 32 || n.val == 127) = true → P (Char.ofNat n.val))
    {c : Char} (control : isControl c = true) : P c := by
  have small : c.toNat < 128 := by
    simp only [isControl, Bool.or_eq_true, decide_eq_true_eq, beq_iff_eq] at control
    omega
  have own := each ⟨c.toNat, small⟩ control
  rwa [Char.ofNat_toNat] at own

/-- The four digits of a control character denote it. -/
theorem hex_of_isControl {c : Char} (control : isControl c = true) :
    (Text.Quoted.hex 4 c.toNat).length = 4 ∧ scalar? (Text.Quoted.hex 4 c.toNat) = some c := by
  refine forall_isControl (P := fun c => (Text.Quoted.hex 4 c.toNat).length = 4 ∧
    scalar? (Text.Quoted.hex 4 c.toNat) = some c) ?_ control
  decide +kernel

/-- The digits of a code point as a list of four. -/
theorem exists_hex_of_isControl {c : Char} (control : isControl c = true) :
    ∃ x y z u, Text.Quoted.hex 4 c.toNat = [x, y, z, u] ∧ scalar? [x, y, z, u] = some c := by
  obtain ⟨four, means⟩ := hex_of_isControl control
  generalize Text.Quoted.hex 4 c.toNat = digits at four means
  match digits, four with
  | [x, y, z, u], _ => exact ⟨x, y, z, u, rfl, means⟩

/-- How a character is written: as a pair, by its code point, or as it stands. -/
inductive WrittenAs (c : Char) : List Char → Prop where
  | pair (short : Char) (means : shortEscape? short = some c) (plain : short ≠ 'u' ∧ short ≠ 'U') :
      WrittenAs c ['\\', short]
  | code (x y z u : Char) (control : isControl c = true)
      (digits : Text.Quoted.hex 4 c.toNat = [x, y, z, u])
      (means : scalar? [x, y, z, u] = some c) : WrittenAs c ['\\', 'u', x, y, z, u]
  | plain (quote : c ≠ '"') (slash : c ≠ '\\') (legal : isControl c = false) : WrittenAs c [c]

theorem writtenAs_writeChar (c : Char) : WrittenAs c (writeChar c) := by
  unfold writeChar
  split
  · rename_i own
    rw [Bool.or_eq_true, beq_iff_eq, beq_iff_eq] at own
    rcases own with rfl | rfl
    · exact .pair '"' (by decide) (by decide)
    · exact .pair '\\' (by decide) (by decide)
  · rename_i other
    rw [Bool.or_eq_true, beq_iff_eq, beq_iff_eq, not_or] at other
    by_cases backspace : c = '\x08'
    · subst backspace
      exact .pair 'b' (by decide) (by decide)
    by_cases tab : c = '\t'
    · subst tab
      exact .pair 't' (by decide) (by decide)
    by_cases feed : c = '\n'
    · subst feed
      exact .pair 'n' (by decide) (by decide)
    by_cases page : c = '\x0C'
    · subst page
      exact .pair 'f' (by decide) (by decide)
    by_cases back : c = '\r'
    · subst back
      exact .pair 'r' (by decide) (by decide)
    simp only [beq_iff_eq, backspace, tab, feed, page, back, if_false]
    split
    · rename_i control
      obtain ⟨x, y, z, u, digits, means⟩ := exists_hex_of_isControl control
      rw [digits]
      exact .code x y z u control digits means
    · rename_i legal
      exact .plain other.1 other.2 (by simpa [isControl] using legal)

theorem readBasic_escape {s rest : List Char} {c : Char} (read : readEscape s = .ok (c, rest)) :
    readBasic ('\\' :: s) = (readBasic rest).map fun (text, after) => (c :: text, after) := by
  rw [readBasic]
  split
  · rename_i refused
    rw [read] at refused
    cases refused
  · rename_i found
    rw [read] at found
    cases found
    rfl

theorem readBasic_plain {c : Char} {s : List Char} (quote : c ≠ '"') (slash : c ≠ '\\')
    (legal : isIllegal c = false) :
    readBasic (c :: s) = (readBasic s).map fun (text, after) => (c :: text, after) := by
  rw [readBasic]
  · rw [legal]
    rfl
  · exact quote
  · exact slash

theorem not_isControl_of_mem_writeChar {c x : Char} (member : x ∈ writeChar c) :
    isControl x = false := by
  have written := writtenAs_writeChar c
  generalize writeChar c = text at written member
  cases written with
  | pair short means plain =>
      simp only [List.mem_cons, List.not_mem_nil, or_false] at member
      rcases member with rfl | rfl
      · decide
      · cases control : isControl x with
        | false => rfl
        | true =>
            refine absurd means ?_
            rw [forall_isControl (P := fun x => shortEscape? x = none) (by decide +kernel) control]
            simp
  | code a b d e control digits means =>
      have plain := forall_isControl (P := fun c => (Text.Quoted.hex 4 c.toNat).all
        (fun x => !isControl x) = true) (by decide +kernel) control
      rw [digits] at plain
      simp only [List.mem_cons, List.not_mem_nil, or_false] at member
      rcases member with rfl | rfl | member
      · decide
      · decide
      · simpa using List.all_eq_true.mp plain x (by simpa using member)
  | plain quote slash legal =>
      rw [List.mem_singleton.mp member]
      exact legal

theorem not_isControl_of_mem_writeString {s : String} {x : Char} (member : x ∈ writeString s) :
    isControl x = false := by
  simp only [writeString, List.cons_append, List.mem_cons, List.mem_append, List.mem_flatMap,
    List.not_mem_nil, or_false] at member
  rcases member with rfl | ⟨c, _, own⟩ | rfl
  · decide
  · exact not_isControl_of_mem_writeChar own
  · decide

theorem isIllegal_of_not_isControl {c : Char} (legal : isControl c = false) :
    isIllegal c = false := by
  simp only [isControl, Bool.or_eq_false_iff, decide_eq_false_iff_not] at legal
  simp [isIllegal, legal]

theorem readEscape_short {short c : Char} (means : shortEscape? short = some c)
    (plain : short ≠ 'u' ∧ short ≠ 'U') (s : List Char) :
    readEscape (short :: s) = .ok (c, s) := by
  unfold readEscape
  split
  · rename_i same
    exact absurd (List.cons.inj same).1 plain.1
  · rename_i same
    exact absurd (List.cons.inj same).1 plain.2
  · rename_i same
    cases same
    rw [means]
  · rename_i empty
    cases empty

theorem readBasic_writeChar (c : Char) (s : List Char) :
    readBasic (writeChar c ++ s) = (readBasic s).map fun (text, after) => (c :: text, after) := by
  have written := writtenAs_writeChar c
  generalize writeChar c = text at written ⊢
  cases written with
  | pair short means plain => exact readBasic_escape (readEscape_short means plain s)
  | code x y z u control digits means =>
      refine readBasic_escape ?_
      change readEscape ('u' :: x :: y :: z :: u :: s) = .ok (c, s)
      simp only [readEscape, means]
  | plain quote slash legal =>
      exact readBasic_plain quote slash (isIllegal_of_not_isControl legal)

/-- A written string is read back, and what follows it is left. -/
theorem readBasic_writeChars (s rest : List Char) :
    readBasic (s.flatMap writeChar ++ '"' :: rest) = .ok (s, rest) := by
  induction s with
  | nil =>
      rw [List.flatMap_nil, List.nil_append, readBasic]
  | cons c s ih =>
      rw [List.flatMap_cons, List.append_assoc, readBasic_writeChar, ih]
      rfl

theorem writeString_append (s : String) (rest : List Char) :
    writeString s ++ rest = '"' :: (s.toList.flatMap writeChar ++ '"' :: rest) := by
  simp [writeString]

/-- After the quote that opens a written string no two more quotes follow. -/
theorem not_quotes_of_writeChars (s : List Char) {rest more : List Char}
    (apart : rest.head? ≠ some '"') : s.flatMap writeChar ++ '"' :: rest ≠ '"' :: '"' :: more := by
  intro same
  cases s with
  | nil =>
      rw [List.flatMap_nil, List.nil_append] at same
      exact apart (by rw [(List.cons.inj same).2]; rfl)
  | cons c s =>
      have written := writtenAs_writeChar c
      rw [List.flatMap_cons, List.append_assoc] at same
      generalize writeChar c = text at written same
      cases written with
      | pair short means plain => exact absurd (List.cons.inj same).1 (by decide)
      | code x y z u control digits means => exact absurd (List.cons.inj same).1 (by decide)
      | plain quote slash legal => exact quote (List.cons.inj same).1

theorem readString_writeString (s : String) {rest : List Char} (apart : rest.head? ≠ some '"') :
    readString (writeString s ++ rest) = .ok (s.toList, rest) := by
  rw [writeString_append, readString]
  · exact readBasic_writeChars s.toList rest
  · intro more same
    exact not_quotes_of_writeChars s.toList apart same

theorem readValue_writeString (fuel : Nat) (s : String) {rest : List Char}
    (apart : rest.head? ≠ some '"') :
    readValue (fuel + 1) (writeString s ++ rest) = .ok (.string s, rest) := by
  have read := readString_writeString s apart
  rw [writeString_append] at read ⊢
  rw [readValue, read]
  simp only [Except.map, String.ofList_toList]

/-! ## The reader that keeps the spelling -/

namespace Layout

/-- The digits of a control character stand for it, and none of them ends a string. -/
theorem codePoint?_hex {c : Char} (control : isControl c = true) :
    codePoint? (Text.Quoted.hex 4 c.toNat) = some c.toNat ∧
      ∀ x ∈ Text.Quoted.hex 4 c.toNat, x ≠ '"' ∧ x ≠ '\\' := by
  obtain ⟨denotes, plain⟩ := forall_isControl (P := fun c =>
    codePoint? (Text.Quoted.hex 4 c.toNat) = some c.toNat ∧
      (Text.Quoted.hex 4 c.toNat).all (fun x => x != '"' && x != '\\') = true)
    (by decide +kernel) control
  refine ⟨denotes, fun x member => ?_⟩
  simpa using List.all_eq_true.mp plain x member

theorem lineBody?_plain {c : Char} (plain : c ≠ '"' ∧ c ≠ '\\') (s : List Char) :
    lineBody? '"' true (c :: s) =
      (lineBody? '"' true s).map fun (body, after) => (c :: body, after) := by
  rw [lineBody?.eq_def]
  simp only [beq_iff_eq, plain, if_false, Bool.true_and]

theorem lineBody?_pair (c : Char) (s : List Char) :
    lineBody? '"' true ('\\' :: c :: s) =
      (lineBody? '"' true s).map fun (body, after) => ('\\' :: c :: body, after) := by
  rw [lineBody?.eq_def]
  rfl

theorem lineBody?_quote (s : List Char) : lineBody? '"' true ('"' :: s) = some ([], s) := by
  rw [lineBody?.eq_def]
  rfl

theorem lineBody?_writeChar (c : Char) (s : List Char) :
    lineBody? '"' true (writeChar c ++ s) =
      (lineBody? '"' true s).map fun (body, after) => (writeChar c ++ body, after) := by
  have written := writtenAs_writeChar c
  generalize writeChar c = text at written ⊢
  cases written with
  | pair short means plain => exact lineBody?_pair short s
  | code x y z u control digits means =>
      have inside := (codePoint?_hex control).2
      rw [digits] at inside
      simp only [List.mem_cons, List.not_mem_nil, or_false, forall_eq_or_imp, forall_eq] at inside
      obtain ⟨first, second, third, last⟩ := inside
      change lineBody? '"' true ('\\' :: 'u' :: x :: y :: z :: u :: s) = _
      rw [lineBody?_pair, lineBody?_plain first, lineBody?_plain second, lineBody?_plain third,
        lineBody?_plain last]
      cases lineBody? '"' true s <;> rfl
  | plain quote slash legal => exact lineBody?_plain ⟨quote, slash⟩ s

theorem lineBody?_writeChars (s rest : List Char) :
    lineBody? '"' true (s.flatMap writeChar ++ '"' :: rest) = some (s.flatMap writeChar, rest) := by
  induction s with
  | nil => exact lineBody?_quote rest
  | cons c s ih =>
      rw [List.flatMap_cons, List.append_assoc, lineBody?_writeChar, ih]
      rfl

theorem escapeOf?_short {short c : Char} (means : shortEscape? short = some c)
    (plain : short ≠ 'u' ∧ short ≠ 'U') : escapeOf? short = some (.inl c.toNat) := by
  have apart : short ≠ 'x' ∧ short ≠ 'e' := by
    constructor
    · rintro rfl
      cases means
    · rintro rfl
      cases means
  unfold escapeOf?
  split
  · exact absurd rfl apart.1
  · exact absurd rfl plain.1
  · exact absurd rfl plain.2
  · exact absurd rfl apart.2
  · rw [means]
    rfl

theorem points?_writeChar (c : Char) (s : List Char) :
    points? true false (.between false) (writeChar c ++ s) =
      (points? true false (.between false) s).map (c.toNat :: ·) := by
  have written := writtenAs_writeChar c
  generalize writeChar c = text at written ⊢
  cases written with
  | pair short means plain =>
      have own := escapeOf?_short means plain
      simp [points?, own]
  | code x y z u control digits means =>
      have known := (codePoint?_hex control).1
      rw [digits] at known
      have four : escapeOf? 'u' = some (.inr 4) := rfl
      simp [points?, four, known]
  | plain quote slash legal =>
      simp [points?, slash, isIllegal_of_not_isControl legal]

theorem points?_writeChars (s : List Char) :
    points? true false (.between false) (s.flatMap writeChar) = some (s.map Char.toNat) := by
  induction s with
  | nil => rfl
  | cons c s ih =>
      rw [List.flatMap_cons, points?_writeChar, ih]
      rfl

/-- A written string is cut out and understood. -/
theorem readQuoted?_writeChars (s : List Char) {rest : List Char} (apart : rest.head? ≠ some '"') :
    readQuoted? '"' (s.flatMap writeChar ++ '"' :: rest) =
      some (⟨false, s.map Char.toNat, '"' :: (s.flatMap writeChar ++ ['"'])⟩, rest) := by
  have single : ∀ more, s.flatMap writeChar ++ '"' :: rest ≠ '"' :: '"' :: more := fun _ =>
    not_quotes_of_writeChars s apart
  have short : readQuoted?.short '"' true (s.flatMap writeChar ++ '"' :: rest) =
      some (false, s.flatMap writeChar, s.flatMap writeChar ++ ['"'], rest) := by
    rw [readQuoted?.short, lineBody?_writeChars]
    rfl
  have understood := points?_writeChars s
  unfold readQuoted?
  generalize s.flatMap writeChar ++ '"' :: rest = text at single short ⊢
  dsimp only [beq_self_eq_true]
  split
  · rename_i a b more
    have apart : (a == '"' && b == '"') = false := by
      rw [Bool.eq_false_iff]
      intro both
      simp only [Bool.and_eq_true, beq_iff_eq] at both
      exact single more (by rw [both.1, both.2])
    rw [apart]
    simp [short, understood]
  · simp [short, understood]

theorem readValue_writeString (fuel depth : Nat) (s : String) {rest : List Char}
    (apart : rest.head? ≠ some '"') :
    readValue (fuel + 1) depth (writeString s ++ rest) = .ok (⟨writeString s, []⟩, rest) := by
  rw [writeString_append, readValue.eq_def]
  simp only [beq_self_eq_true, Bool.true_or, if_true, readQuoted?_writeChars s.toList apart]
  simp [writeString]

end Layout

end CommandDocs.Toml

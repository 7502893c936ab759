import CommandDocs.Console.Markup

/-!
# Texts and their segments

A bracket of a text either opens a tag or is shown, and it does so in the segment that holds it.
Escaping a text keeps its segments and gives every tag an odd number of backslashes.
-/

namespace CommandDocs.Console.Markup

/-- A text is split in two ways at one place, or the second place lies behind the first. -/
theorem split_of_not_mem {c d : Char} {front back before after : List Char} (free : d ∉ front)
    (split : front ++ c :: back = before ++ d :: after) :
    (before = front ∧ c = d ∧ back = after) ∨
      ∃ more, before = front ++ c :: more ∧ back = more ++ d :: after := by
  obtain ⟨more, rfl, rest⟩ | ⟨more, whole, rest⟩ := List.append_eq_append_iff.mp split
  · cases more with
    | nil => exact .inl ⟨List.append_nil _, by simpa using rest⟩
    | cons first more =>
        obtain ⟨rfl, rfl⟩ := List.cons.inj rest
        exact .inr ⟨more, rfl, rfl⟩
  · cases more with
    | nil =>
        obtain ⟨rfl, rfl⟩ := List.cons.inj rest
        exact .inl ⟨by simpa using whole.symm, rfl, rfl⟩
    | cons first more =>
        obtain ⟨rfl, rfl⟩ := List.cons.inj rest
        exact absurd (whole ▸ List.mem_append_right _ List.mem_cons_self) free

section Tags

variable {s body : List Char} {c : Char}

/-- What can stand between the brackets of a tag. -/
def IsTagBody (body : List Char) : Prop :=
  ∃ first rest, body = first :: rest ∧ opensTag first = true ∧ '[' ∉ rest ∧ ']' ∉ rest

def isBracket (c : Char) : Bool :=
  c == '[' || c == ']'

theorem isBracket_of_opensTag (opens : opensTag c = true) : isBracket c = false := by
  rw [Bool.eq_false_iff]
  intro bracket
  obtain rfl | rfl : c = '[' ∨ c = ']' := by simpa [isBracket] using bracket
  · exact absurd opens (by decide)
  · exact absurd opens (by decide)

theorem IsTagBody.not_mem (tag : IsTagBody body) : '[' ∉ body ∧ ']' ∉ body := by
  obtain ⟨first, rest, rfl, opens, opening, closing⟩ := tag
  have other := isBracket_of_opensTag opens
  simp only [isBracket, Bool.or_eq_false_iff, beq_eq_false_iff_ne] at other
  exact ⟨by simpa using ⟨other.1.symm, opening⟩, by simpa using ⟨other.2.symm, closing⟩⟩

theorem upToClosing?_append {after : List Char} (opening : '[' ∉ body) (closing : ']' ∉ body) :
    upToClosing? (body ++ ']' :: after) = some body := by
  induction body with
  | nil => rfl
  | cons c body ih =>
      rw [List.mem_cons, not_or] at opening closing
      simp [upToClosing?, Ne.symm opening.1, Ne.symm closing.1, ih opening.2 closing.2]

theorem not_mem_of_upToClosing? (found : upToClosing? s = some body) : '[' ∉ body ∧ ']' ∉ body := by
  induction s generalizing body with
  | nil => cases found
  | cons c rest ih =>
      unfold upToClosing? at found
      split at found
      · cases found
        exact ⟨List.not_mem_nil, List.not_mem_nil⟩
      · rename_i closing
        split at found
        · cases found
        · rename_i opening
          obtain ⟨inner, hit, rfl⟩ := Option.map_eq_some_iff.mp found
          obtain ⟨free, clean⟩ := ih hit
          rw [beq_iff_eq] at closing opening
          simp [Ne.symm closing, Ne.symm opening, free, clean]

theorem upToClosing?_eq_none_iff :
    upToClosing? s = none ↔ (s.filter isBracket).head? ≠ some ']' := by
  induction s with
  | nil => simp [upToClosing?]
  | cons c rest ih =>
      by_cases closing : c = ']'
      · simp [upToClosing?, isBracket, closing]
      · by_cases opening : c = '['
        · simp [upToClosing?, isBracket, opening]
        · simpa [upToClosing?, isBracket, closing, opening] using ih

/-- The body of a tag is read off a text that it stands before, with a closing bracket. -/
theorem tagBody?_eq_some_iff :
    tagBody? s = some body ↔ IsTagBody body ∧ ∃ after, s = body ++ ']' :: after := by
  constructor
  · intro found
    refine ⟨?_, _, eq_append_of_tagBody? found⟩
    cases s with
    | nil => cases found
    | cons first rest =>
        cases opens : opensTag first with
        | false => simp [tagBody?, opens] at found
        | true =>
            simp only [tagBody?, opens, if_true] at found
            obtain ⟨inner, hit, rfl⟩ := Option.map_eq_some_iff.mp found
            exact ⟨first, inner, rfl, opens, not_mem_of_upToClosing? hit⟩
  · rintro ⟨⟨first, rest, rfl, opens, opening, closing⟩, after, rfl⟩
    simp [tagBody?, opens, upToClosing?_append opening closing]

/-- Whether a tag opens before a text shows in its first character and its first bracket. -/
theorem tagBody?_eq_none_iff :
    tagBody? s = none ↔ s.head?.any opensTag = false ∨ (s.filter isBracket).head? ≠ some ']' := by
  cases s with
  | nil => simp [tagBody?]
  | cons c rest =>
      cases opens : opensTag c with
      | false => simp [tagBody?, opens]
      | true =>
          simp [tagBody?, opens, isBracket_of_opensTag opens, upToClosing?_eq_none_iff]

end Tags

namespace Segment

theorem not_mem_slashRun {c : Char} (other : c ≠ '\\') (n : Nat) : c ∉ slashRun n :=
  fun member => other (List.eq_of_mem_replicate member)

theorem slashRun_succ (n : Nat) : slashRun (n + 1) = slashRun n ++ ['\\'] :=
  List.replicate_succ'

theorem ne_zero_of_getLast?_slashRun {c : Char} {n : Nat} (last : (slashRun n).getLast? = some c) :
    n ≠ 0 := by
  rintro rfl
  cases last

/-- What a bracket after some backslashes is part of, as what follows it decides. -/
def atBracket (slashes : Nat) (after : List Char) : Segment :=
  match tagBody? after with
  | some body => .tag slashes body
  | none => .plain slashes (some '[')

end Segment

open Segment (slashRun atBracket)

/-- A tag starts with an opening bracket. -/
theorem opening_of_found {c : Char} {rest body : List Char}
    (found : (if c == '[' then tagBody? rest else none) = some body) :
    c = '[' ∧ tagBody? rest = some body := by
  split at found
  · rename_i opening
    exact ⟨eq_of_beq opening, found⟩
  · cases found

/-- Every opening bracket of a text has a segment, and so have the backslashes before it.  The
induction is on the reader, and the backslashes that it has read already count as text. -/
theorem atBracket_mem_segmentsFrom {slashes skipped : Nat} {s before after : List Char}
    (split : slashRun slashes ++ s.drop skipped = before ++ '[' :: after) :
    ∃ n, atBracket n after ∈ segmentsFrom slashes skipped s ∧
      (before.getLast? = some '\\' → n ≠ 0) := by
  have free : ∀ n, '[' ∉ slashRun n := Segment.not_mem_slashRun (by decide)
  fun_induction segmentsFrom slashes skipped s generalizing before with
  | case1 skipped => simp [slashRun] at split
  | case2 slashes skipped some_left =>
      rw [List.drop_nil, List.append_nil] at split
      exact absurd (split ▸ List.mem_append_right _ List.mem_cons_self) (free slashes)
  | case3 slashes skipped c rest ih => exact ih (by simpa using split)
  | case4 slashes c rest slash ih =>
      rw [eq_of_beq slash] at split
      exact ih (by rw [Segment.slashRun_succ, ← split]; simp)
  | case5 slashes c rest other body found ih =>
      obtain ⟨rfl, tag⟩ := opening_of_found found
      obtain ⟨rfl, _, rfl⟩ | ⟨more, rfl, cut⟩ := split_of_not_mem (free slashes) split
      · exact ⟨slashes, by simp [atBracket, tag], Segment.ne_zero_of_getLast?_slashRun⟩
      · have ahead := eq_append_of_tagBody? tag
        have inside := (tagBody?_eq_some_iff.mp tag).1.not_mem.1
        generalize rest.drop (body.length + 1) = later at ahead ih
        obtain ⟨_, different, _⟩ | ⟨further, rfl, behind⟩ :=
          split_of_not_mem inside (ahead.symm.trans cut)
        · exact absurd different (by decide)
        · obtain ⟨n, member, counted⟩ := ih (by simpa [slashRun] using behind)
          refine ⟨n, List.mem_cons_of_mem _ member, fun last => counted ?_⟩
          cases further with
          | nil => simp [List.getLast?_cons] at last
          | cons first further => simpa [List.getLast?_cons] using last
  | case6 slashes c rest other unmet ih =>
      obtain ⟨rfl, rfl, rfl⟩ | ⟨more, rfl, cut⟩ := split_of_not_mem (free slashes) split
      · have plain : tagBody? rest = none := by simpa using unmet
        exact ⟨slashes, by simp [atBracket, plain], Segment.ne_zero_of_getLast?_slashRun⟩
      · obtain ⟨n, member, counted⟩ := ih (by simpa [slashRun] using cut)
        refine ⟨n, List.mem_cons_of_mem _ member, fun last => counted ?_⟩
        cases more with
        | nil => simp_all
        | cons first more => simpa using last

/-- A segment that is a tag or shows a bracket stands where the text has that bracket. -/
theorem exists_split_of_mem_segmentsFrom {slashes skipped : Nat} {s : List Char} {segment : Segment}
    (member : segment ∈ segmentsFrom slashes skipped s) (bracket : '[' ∈ segment.source) :
    ∃ n before after, segment = atBracket n after ∧
      slashRun slashes ++ s.drop skipped = before ++ slashRun n ++ '[' :: after := by
  fun_induction segmentsFrom slashes skipped s with
  | case1 skipped => cases member
  | case2 slashes skipped some_left =>
      rw [List.mem_singleton.mp member] at bracket
      simp [Segment.source, Segment.not_mem_slashRun] at bracket
  | case3 slashes skipped c rest ih => simpa using ih member
  | case4 slashes c rest slash ih =>
      obtain ⟨n, before, after, shape, split⟩ := ih member
      refine ⟨n, before, after, shape, ?_⟩
      rw [← split, Segment.slashRun_succ, eq_of_beq slash]
      simp
  | case5 slashes c rest other body found ih =>
      obtain ⟨rfl, tag⟩ := opening_of_found found
      obtain rfl | later := List.mem_cons.mp member
      · exact ⟨slashes, [], rest, by simp [atBracket, tag], by simp⟩
      · obtain ⟨n, before, after, shape, split⟩ := ih later
        refine ⟨n, slashRun slashes ++ '[' :: body ++ ']' :: before, after, shape, ?_⟩
        rw [List.drop_zero, eq_append_of_tagBody? tag]
        simp_all [slashRun]
  | case6 slashes c rest other unmet ih =>
      obtain rfl | later := List.mem_cons.mp member
      · have opening : c = '[' := by
          simpa [Segment.source, Segment.not_mem_slashRun, eq_comm] using bracket
        subst opening
        have plain : tagBody? rest = none := by simpa using unmet
        exact ⟨slashes, [], rest, by simp [atBracket, plain], by simp⟩
      · obtain ⟨n, before, after, shape, split⟩ := ih later
        refine ⟨n, slashRun slashes ++ c :: before, after, shape, ?_⟩
        simp_all [slashRun]

theorem atBracket_mem_segments (before after : List Char) :
    ∃ n, atBracket n after ∈ segments (before ++ '[' :: after) ∧
      (before.getLast? = some '\\' → n ≠ 0) :=
  atBracket_mem_segmentsFrom (by simp [slashRun])

theorem exists_split_of_mem_segments {s : List Char} {segment : Segment}
    (member : segment ∈ segments s) (bracket : '[' ∈ segment.source) :
    ∃ n before after, segment = atBracket n after ∧ s = before ++ slashRun n ++ '[' :: after := by
  simpa [slashRun] using exists_split_of_mem_segmentsFrom member bracket

section Brackets

variable {s : List Char}

def HasTag (s : List Char) : Prop :=
  ∃ before body after, s = before ++ '[' :: (body ++ ']' :: after) ∧ IsTagBody body

/-- A text with a backslash before a bracket that opens no tag. -/
def HasLooseSlash (s : List Char) : Prop :=
  ∃ before after, s = before ++ '\\' :: '[' :: after ∧ tagBody? after = none

theorem hasTag_iff : HasTag s ↔ ∃ n body, Segment.tag n body ∈ segments s := by
  constructor
  · rintro ⟨before, body, after, rfl, tag⟩
    have read : tagBody? (body ++ ']' :: after) = some body :=
      tagBody?_eq_some_iff.mpr ⟨tag, after, rfl⟩
    obtain ⟨n, member, _⟩ := atBracket_mem_segments before (body ++ ']' :: after)
    exact ⟨n, body, by simpa [atBracket, read] using member⟩
  · rintro ⟨n, body, member⟩
    obtain ⟨m, before, after, shape, split⟩ := exists_split_of_mem_segments member
      (by simp [Segment.source, Segment.bracketed])
    cases read : tagBody? after with
    | none => simp [atBracket, read] at shape
    | some found =>
        obtain ⟨rfl, rfl⟩ : n = m ∧ body = found := by simpa [atBracket, read] using shape
        obtain ⟨tag, rest, rfl⟩ := tagBody?_eq_some_iff.mp read
        exact ⟨before ++ slashRun n, body, rest, split, tag⟩

theorem hasLooseSlash_iff :
    HasLooseSlash s ↔ ∃ n, Segment.plain (n + 1) (some '[') ∈ segments s := by
  constructor
  · rintro ⟨before, after, rfl, unread⟩
    obtain ⟨n, member, counted⟩ := atBracket_mem_segments (before ++ ['\\']) after
    cases n with
    | zero => exact absurd rfl (counted (by simp))
    | succ n => exact ⟨n, by simpa [atBracket, unread] using member⟩
  · rintro ⟨n, member⟩
    obtain ⟨m, before, after, shape, split⟩ := exists_split_of_mem_segments member
      (by simp [Segment.source])
    cases read : tagBody? after with
    | some found => simp [atBracket, read] at shape
    | none =>
        obtain rfl : n + 1 = m := by simpa [atBracket, read] using shape
        exact ⟨before ++ slashRun n, after, by simp [split, Segment.slashRun_succ], read⟩

end Brackets

namespace Segment

/-- A segment as the escaping of its text leaves it: a tag is not read as one any more, and a
single backslash at the end is doubled. -/
def shielded : Segment → Segment
  | .tag slashes body => .tag (2 * slashes + 1) body
  | .plain 1 none => .plain 2 none
  | .plain slashes next => .plain slashes next

end Segment

def doubleEnd (s : List Char) : List Char :=
  if endsInSlash s then s ++ ['\\'] else s

theorem endsInSlash_append_cons {c : Char} (other : c ≠ '\\') (s t : List Char) :
    endsInSlash (s ++ c :: t) = endsInSlash t := by
  unfold endsInSlash
  rw [List.reverse_append, List.reverse_cons, List.append_assoc]
  rcases t.reverse with _ | ⟨first, _ | ⟨second, more⟩⟩
  · simp [other]
  · by_cases slash : first = '\\' <;> simp [slash, other]
  · by_cases slash : first = '\\' <;> by_cases again : second = '\\' <;> simp [slash, again]

theorem endsInSlash_slashRun (n : Nat) : endsInSlash (slashRun n) = (n == 1) := by
  unfold endsInSlash slashRun
  rw [List.reverse_replicate]
  rcases n with _ | _ | n <;> rfl

theorem doubleEnd_append_cons {c : Char} (other : c ≠ '\\') (s t : List Char) :
    doubleEnd (s ++ c :: t) = s ++ c :: doubleEnd t := by
  unfold doubleEnd
  rw [endsInSlash_append_cons other]
  split
  · simp
  · rfl

theorem doubleEnd_slashRun (n : Nat) :
    doubleEnd (slashRun n) = (Segment.plain n none).shielded.source := by
  unfold doubleEnd
  rw [endsInSlash_slashRun]
  rcases n with _ | _ | n <;> simp [Segment.shielded, Segment.source, slashRun]

theorem doubleEnd_flatMap_escaped (slashes skipped : Nat) (s : List Char) :
    doubleEnd ((segmentsFrom slashes skipped s).flatMap Segment.escaped) =
      (segmentsFrom slashes skipped s).flatMap fun segment => segment.shielded.source := by
  fun_induction segmentsFrom slashes skipped s with
  | case1 skipped => rfl
  | case2 slashes skipped some_left =>
      simpa [Segment.escaped] using doubleEnd_slashRun slashes
  | case3 slashes skipped c rest ih => exact ih
  | case4 slashes c rest slash ih => exact ih
  | case5 slashes c rest other body found ih =>
      rw [List.flatMap_cons, List.flatMap_cons, ← ih]
      generalize (segmentsFrom 0 (body.length + 1) rest).flatMap Segment.escaped = later
      have closing := doubleEnd_append_cons (c := ']') (by decide)
        (slashRun (2 * slashes + 1) ++ '[' :: body) later
      simpa [Segment.escaped, Segment.bracketed, Segment.shielded, Segment.source] using closing
  | case6 slashes c rest other unmet ih =>
      rw [List.flatMap_cons, List.flatMap_cons, ← ih]
      generalize (segmentsFrom 0 0 rest).flatMap Segment.escaped = later
      have shown := doubleEnd_append_cons (by simpa using other) (slashRun slashes) later
      simpa [Segment.escaped, Segment.shielded, Segment.source] using shown

theorem escape_eq (s : List Char) :
    escape s = ((segments s).map Segment.shielded).flatMap Segment.source := by
  rw [List.flatMap_map]
  exact doubleEnd_flatMap_escaped 0 0 s

theorem filter_isBracket_slashRun (n : Nat) : (slashRun n).filter isBracket = [] := by
  simp [slashRun, isBracket]

theorem filter_isBracket_shielded (segment : Segment) :
    segment.shielded.source.filter isBracket = segment.source.filter isBracket := by
  unfold Segment.shielded
  split <;> simp [Segment.source, filter_isBracket_slashRun]

/-- Shielding lets no text start with what could start the body of a tag. -/
theorem any_opensTag_shielded (parts : List Segment) :
    ((parts.map Segment.shielded).flatMap Segment.source).head?.any opensTag =
      (parts.flatMap Segment.source).head?.any opensTag := by
  have slash : opensTag '\\' = false := rfl
  have opening : opensTag '[' = false := rfl
  induction parts with
  | nil => rfl
  | cons segment rest ih =>
      rw [List.map_cons, List.flatMap_cons, List.flatMap_cons]
      obtain ⟨_ | n, body⟩ | ⟨_ | _ | n, _ | c⟩ := segment <;>
        simp [Segment.shielded, Segment.source, Segment.bracketed, slashRun, List.replicate_succ,
          slash, opening, ih]

theorem tagBody?_shielded (parts : List Segment) :
    tagBody? ((parts.map Segment.shielded).flatMap Segment.source) = none ↔
      tagBody? (parts.flatMap Segment.source) = none := by
  rw [tagBody?_eq_none_iff, tagBody?_eq_none_iff, any_opensTag_shielded, List.filter_flatMap,
    List.filter_flatMap, List.flatMap_map]
  simp only [filter_isBracket_shielded]

theorem segmentsFrom_slashRun_append (slashes n : Nat) (s : List Char) :
    segmentsFrom slashes 0 (slashRun n ++ s) = segmentsFrom (slashes + n) 0 s := by
  induction n generalizing slashes with
  | zero => rfl
  | succ n ih =>
      rw [slashRun, List.replicate_succ, List.cons_append, segmentsFrom, if_pos (by decide)]
      rw [← slashRun, ih, Nat.add_right_comm, Nat.add_assoc]

theorem segmentsFrom_skip (slashes skipped : Nat) (s : List Char) :
    segmentsFrom slashes skipped s = segmentsFrom slashes 0 (s.drop skipped) := by
  induction skipped generalizing s with
  | zero => rfl
  | succ skipped ih =>
      cases s with
      | nil => rfl
      | cons c rest => exact ih rest

theorem segments_slashRun (n : Nat) :
    segments (slashRun n) = if n = 0 then [] else [.plain n none] := by
  have read := segmentsFrom_slashRun_append 0 n []
  rw [List.append_nil, Nat.zero_add] at read
  exact read

theorem segments_tag {body : List Char} (tag : IsTagBody body) (n : Nat) (s : List Char) :
    segments (slashRun n ++ Segment.bracketed body ++ s) = .tag n body :: segments s := by
  have read : tagBody? (body ++ ']' :: s) = some body := tagBody?_eq_some_iff.mpr ⟨tag, s, rfl⟩
  rw [List.append_assoc, segments, segmentsFrom_slashRun_append]
  simp [Segment.bracketed, segmentsFrom, read, segmentsFrom_skip 0 (body.length + 1), segments]

theorem segments_plain {c : Char} {s : List Char} (other : c ≠ '\\')
    (unread : c = '[' → tagBody? s = none) (n : Nat) :
    segments (slashRun n ++ c :: s) = .plain n (some c) :: segments s := by
  have unmet : (if c = '[' then tagBody? s else none) = none := by
    split
    · exact unread ‹_›
    · rfl
  rw [segments, segmentsFrom_slashRun_append, segmentsFrom]
  simp [other, unmet, segments]

/-- Shielded segments are read back from their text.  A bracket that opened no tag opens none after
the escaping either. -/
theorem segments_shielded (slashes skipped : Nat) (s : List Char) :
    segments (((segmentsFrom slashes skipped s).map Segment.shielded).flatMap Segment.source) =
      (segmentsFrom slashes skipped s).map Segment.shielded := by
  fun_induction segmentsFrom slashes skipped s with
  | case1 skipped => rfl
  | case2 slashes skipped some_left =>
      obtain _ | _ | n := slashes
      · exact absurd rfl some_left
      · rfl
      · simpa [Segment.shielded, Segment.source] using segments_slashRun (n + 2)
  | case3 slashes skipped c rest ih => exact ih
  | case4 slashes c rest slash ih => exact ih
  | case5 slashes c rest other body found ih =>
      have tag := (tagBody?_eq_some_iff.mp (opening_of_found found).2).1
      rw [List.map_cons, List.flatMap_cons, Segment.shielded, Segment.source, segments_tag tag, ih]
  | case6 slashes c rest other unmet ih =>
      change segments (((segments rest).map Segment.shielded).flatMap Segment.source) =
        (segments rest).map Segment.shielded at ih
      have unread : c = '[' →
          tagBody? (((segments rest).map Segment.shielded).flatMap Segment.source) = none := by
        intro opening
        rw [tagBody?_shielded, flatMap_source_segments]
        simpa [opening] using unmet
      have read := segments_plain (by simpa using other) unread slashes
      rw [ih] at read
      simpa [Segment.shielded, Segment.source, segments] using read

theorem segments_escape (s : List Char) :
    segments (escape s) = (segments s).map Segment.shielded := by
  rw [escape_eq]
  exact segments_shielded 0 0 s

theorem endsInSlash_segmentsFrom (slashes skipped : Nat) (s : List Char) :
    endsInSlash (slashRun slashes ++ s.drop skipped) = true ↔
      Segment.plain 1 none ∈ segmentsFrom slashes skipped s := by
  fun_induction segmentsFrom slashes skipped s with
  | case1 skipped => simp [slashRun, endsInSlash]
  | case2 slashes skipped some_left =>
      rw [List.drop_nil, List.append_nil, endsInSlash_slashRun]
      simpa using eq_comm
  | case3 slashes skipped c rest ih => exact ih
  | case4 slashes c rest slash ih =>
      rw [eq_of_beq slash, ← ih, Segment.slashRun_succ]
      simp
  | case5 slashes c rest other body found ih =>
      have tag := (opening_of_found found).2
      have closing := endsInSlash_append_cons (c := ']') (by decide) (slashRun slashes ++ c :: body)
        (rest.drop (body.length + 1))
      rw [List.append_assoc, List.cons_append, ← eq_append_of_tagBody? tag] at closing
      rw [List.drop_zero, closing]
      simpa [slashRun] using ih
  | case6 slashes c rest other unmet ih =>
      rw [List.drop_zero, endsInSlash_append_cons (by simpa using other)]
      simpa [slashRun] using ih

theorem endsInSlash_iff {s : List Char} :
    endsInSlash s = true ↔ Segment.plain 1 none ∈ segments s :=
  endsInSlash_segmentsFrom 0 0 s

/-- Backslashes with nothing after them are the last segment. -/
theorem exists_concat_of_mem_segmentsFrom {slashes skipped n : Nat} {s : List Char}
    (member : Segment.plain n none ∈ segmentsFrom slashes skipped s) :
    ∃ front, segmentsFrom slashes skipped s = front ++ [.plain n none] := by
  fun_induction segmentsFrom slashes skipped s with
  | case1 skipped => cases member
  | case2 slashes skipped some_left => exact ⟨[], by rw [List.mem_singleton.mp member]; rfl⟩
  | case3 slashes skipped c rest ih => exact ih member
  | case4 slashes c rest slash ih => exact ih member
  | case5 slashes c rest other body found ih =>
      obtain ⟨front, whole⟩ := ih (by simpa using member)
      exact ⟨.tag slashes body :: front, by rw [whole]; rfl⟩
  | case6 slashes c rest other unmet ih =>
      obtain ⟨front, whole⟩ := ih (by simpa using member)
      exact ⟨.plain slashes (some c) :: front, by rw [whole]; rfl⟩

end CommandDocs.Console.Markup

import CommandDocs.Proofs.Console.Emoji
import CommandDocs.Proofs.Console.Segments
import CommandDocs.Proofs.Outcomes
import Mathlib.Data.List.Flatten

/-!
# What texts with tags show

A text is shown stretch by stretch, as its tags divide it.  It is shown as it stands just when no
stretch loses a character, which the number of its colons and its length tell.
-/

namespace CommandDocs.Console

theorem sent_append (s t : List Char) : sent (s ++ t) = sent s ++ sent t :=
  List.filter_append s t

theorem sent_eq_self_iff {s : List Char} : sent s = s ↔ ∀ c ∈ s, isUnsent c = false := by
  simp [sent, List.filter_eq_self]

namespace Markup

open Segment (slashRun)

theorem sent_slashRun (n : Nat) : sent (slashRun n) = slashRun n :=
  sent_eq_self_iff.mpr fun _ member => List.eq_of_mem_replicate member ▸ rfl

theorem showText_append_slashRun (s : List Char) (n : Nat) :
    showText (s ++ slashRun n) = showText s ++ slashRun n := by
  have free : ':' ∉ slashRun n := Segment.not_mem_slashRun (by decide) n
  rw [showText, Emoji.replace_append_of_not_mem s free, sent_append, sent_slashRun, ← showText]

theorem showText_slashRun_append (n : Nat) (s : List Char) :
    showText (slashRun n ++ s) = slashRun n ++ showText s := by
  have free : ':' ∉ slashRun n := Segment.not_mem_slashRun (by decide) n
  rw [showText, Emoji.replace_append_of_not_mem_left free, sent_append, sent_slashRun, ← showText]

theorem showText_slashRun (n : Nat) : showText (slashRun n) = slashRun n := by
  have empty : showText [] = [] := rfl
  simpa [empty] using showText_slashRun_append n []

theorem count_showText_le (s : List Char) : (showText s).count ':' ≤ s.count ':' :=
  (List.filter_sublist.count_le ':').trans (Emoji.count_replace_le s)

theorem showText_eq_sent {s : List Char} (kept : s.count ':' ≤ (showText s).count ':') :
    showText s = sent s := by
  have whole : Emoji.replace s = s :=
    Emoji.replace_eq_of_count_le (kept.trans (List.filter_sublist.count_le ':'))
  rw [showText, whole]

/-- A text is shown as it stands if it has no code of an emoji and no character that is never
sent. -/
theorem showText_eq_self_iff {s : List Char} :
    showText s = s ↔ Emoji.replace s = s ∧ ∀ c ∈ s, isUnsent c = false := by
  constructor
  · intro same
    have kept : s.count ':' ≤ (showText s).count ':' := by rw [same]
    have clean : sent s = s := (showText_eq_sent kept).symm.trans same
    refine ⟨Emoji.replace_eq_of_count_le (kept.trans (List.filter_sublist.count_le ':')), ?_⟩
    exact sent_eq_self_iff.mp clean
  · rintro ⟨whole, clean⟩
    rw [showText, whole, sent_eq_self_iff.mpr clean]

section Pieces

variable {pieces : List (List Char)} {whole : List Char}

theorem count_flatMap_showText (pieces : List (List Char)) :
    (pieces.flatMap showText).count ':' ≤ pieces.flatten.count ':' ∧
      (pieces.flatten.count ':' ≤ (pieces.flatMap showText).count ':' →
        ∀ piece ∈ pieces, showText piece = sent piece) := by
  induction pieces with
  | nil => simp
  | cons piece rest ih =>
      have fewer := count_showText_le piece
      simp only [List.flatMap_cons, List.flatten_cons, List.count_append, List.forall_mem_cons]
      exact ⟨by omega, fun kept => ⟨showText_eq_sent (by omega), ih.2 (by omega)⟩⟩

/-- Pieces that come from a text and show it again are that text, each of them shown as it
stands. -/
theorem eq_of_flatMap_showText (within : pieces.flatten.Sublist whole)
    (shown : pieces.flatMap showText = whole) :
    pieces.flatten = whole ∧ ∀ piece ∈ pieces, showText piece = piece := by
  -- The colons tell that no code was replaced; then the length tells that nothing was left out.
  have kept : pieces.flatten.count ':' ≤ (pieces.flatMap showText).count ':' := by
    rw [shown]
    exact within.count_le ':'
  have each := (count_flatMap_showText pieces).2 kept
  have sentAll : sent pieces.flatten = whole := by
    rw [← shown, sent, List.filter_flatten, List.flatMap_def, List.map_congr_left each]
    rfl
  have same : pieces.flatten = whole :=
    within.eq_of_length_le (by rw [← sentAll]; exact List.length_filter_le ..)
  refine ⟨same, fun piece member => ?_⟩
  have clean := sent_eq_self_iff.mp (sentAll.trans same.symm)
  rw [each piece member]
  exact sent_eq_self_iff.mpr fun c inside => clean c (List.mem_flatten.mpr ⟨piece, member, inside⟩)

end Pieces

/-- What a segment shows before codes of emoji are replaced. -/
def Segment.shown : Segment → List Char
  | .tag slashes body =>
      slashRun (slashes / 2) ++ if slashes % 2 = 1 then bracketed body else []
  | .plain slashes next => showPlain slashes next

/-- The stretches of text that some segments make up.  A tag is a stretch of its own, and a text
that is there already is the start of the first one. -/
def stretches (part : Segment → List Char) : (start : List Char) → List Segment → List (List Char)
  | start, [] => [start]
  | start, .plain slashes next :: rest =>
      stretches part (start ++ part (.plain slashes next)) rest
  | start, .tag slashes body :: rest =>
      start :: part (.tag slashes body) :: stretches part [] rest

/-- The stretches of a text between its tags, and the tags. -/
def parts (s : List Char) : List (List Char) :=
  stretches Segment.source [] (segments s)

section Stretches

variable {part other : Segment → List Char} {start : List Char} {list : List Segment}

theorem flatten_stretches (part : Segment → List Char) (start : List Char) (list : List Segment) :
    (stretches part start list).flatten = start ++ list.flatMap part := by
  fun_induction stretches part start list with
  | case1 start => simp
  | case2 start slashes next rest ih => simp [ih]
  | case3 start slashes body rest ih => simp [ih]

theorem stretches_congr (same : ∀ segment ∈ list, part segment = other segment) :
    stretches part start list = stretches other start list := by
  fun_induction stretches part start list with
  | case1 start => rfl
  | case2 start slashes next rest ih =>
      obtain ⟨first, later⟩ := List.forall_mem_cons.mp same
      rw [ih later, stretches, first]
  | case3 start slashes body rest ih =>
      obtain ⟨first, later⟩ := List.forall_mem_cons.mp same
      rw [ih later, stretches, first]

theorem stretches_map_shielded (part : Segment → List Char) (start : List Char)
    (list : List Segment) :
    stretches part start (list.map Segment.shielded) =
      stretches (fun segment => part segment.shielded) start list := by
  induction list generalizing start with
  | nil => rfl
  | cons segment rest ih =>
      obtain ⟨slashes, body⟩ | ⟨_ | _ | n, _ | c⟩ := segment <;>
        simp [Segment.shielded, stretches, ih]

theorem stretches_of_plain (plain : ∀ n body, Segment.tag n body ∉ list) :
    stretches part start list = [start ++ list.flatMap part] := by
  fun_induction stretches part start list with
  | case1 start => simp
  | case2 start slashes next rest ih =>
      rw [ih fun n body member => plain n body (List.mem_cons_of_mem _ member)]
      simp
  | case3 start slashes body rest ih => exact absurd List.mem_cons_self (plain slashes body)

theorem text_showSegments {position place : Nat} {opened : List Opened} {pending : List Char}
    {cell : Marked} (shown : showSegments position place opened pending list = .ok cell) :
    cell.text = (stretches Segment.shown pending.reverse list).flatMap showText := by
  induction list generalizing position place opened pending cell with
  | nil =>
      cases shown
      simp [stretches]
  | cons segment rest ih =>
      cases segment with
      | plain slashes next =>
          have later := ih shown
          simpa [stretches, Segment.shown] using later
      | tag slashes body =>
          unfold showSegments at shown
          dsimp only at shown
          split at shown
          · rename_i odd
            obtain ⟨after, found, given⟩ := bind_eq_ok_iff.mp shown
            cases given
            have later := ih found
            simp [stretches, Segment.shown, odd, showText_slashRun_append, later]
          · rename_i even
            obtain ⟨⟨marks, now⟩, applied, shown⟩ := bind_eq_ok_iff.mp shown
            obtain ⟨after, found, given⟩ := bind_eq_ok_iff.mp shown
            cases given
            have later := ih found
            simp [stretches, Segment.shown, even, showText_slashRun, later]

/-- Only a tag that is read as one can be refused. -/
theorem exists_showSegments_of_odd (odd : ∀ n body, Segment.tag n body ∈ list → n % 2 = 1)
    (position place : Nat) (opened : List Opened) (pending : List Char) :
    ∃ cell, showSegments position place opened pending list = .ok cell := by
  induction list generalizing position place opened pending with
  | nil => exact ⟨_, rfl⟩
  | cons segment rest ih =>
      have later := ih fun n body member => odd n body (List.mem_cons_of_mem _ member)
      cases segment with
      | plain slashes next => exact later ..
      | tag slashes body =>
          obtain ⟨after, found⟩ := later (position + (Segment.tag slashes body).source.length)
            (place + (showText pending.reverse ++ slashRun (slashes / 2) ++
              showText (Segment.bracketed body)).length) opened []
          unfold showSegments
          dsimp only
          rw [if_pos (odd slashes body List.mem_cons_self), found]
          exact ⟨_, rfl⟩

/-- Segments that each give no more than they are made of, and all of it together, each give all of
it. -/
theorem eq_source_of_length_le (within : ∀ segment ∈ list, (part segment).Sublist segment.source)
    (all : (list.flatMap Segment.source).length ≤ (list.flatMap part).length) :
    ∀ segment ∈ list, part segment = segment.source := by
  induction list with
  | nil => exact fun _ member => by cases member
  | cons segment rest ih =>
      obtain ⟨first, later⟩ := List.forall_mem_cons.mp within
      have fewer := first.length_le
      have fewerLater := (List.Sublist.flatMap_right rest later).length_le
      simp only [List.flatMap_cons, List.length_append] at all
      refine List.forall_mem_cons.mpr ⟨first.eq_of_length (by omega), ih later (by omega)⟩

/-- Stretches show the text that their segments are made of if no segment gives less than it is
made of and every stretch is shown as it stands. -/
theorem flatMap_showText_stretches_iff (part : Segment → List Char) (list : List Segment)
    (within : ∀ segment ∈ list, (part segment).Sublist segment.source) :
    (stretches part [] list).flatMap showText = list.flatMap Segment.source ↔
      (∀ segment ∈ list, part segment = segment.source) ∧
        ∀ piece ∈ stretches Segment.source [] list, showText piece = piece := by
  constructor
  · intro shown
    have inside : (stretches part [] list).flatten.Sublist (list.flatMap Segment.source) := by
      rw [flatten_stretches, List.nil_append]
      exact List.Sublist.flatMap_right list within
    obtain ⟨whole, each⟩ := eq_of_flatMap_showText inside shown
    rw [flatten_stretches, List.nil_append] at whole
    have same := eq_source_of_length_le within (by rw [whole])
    exact ⟨same, stretches_congr same ▸ each⟩
  · rintro ⟨same, each⟩
    rw [stretches_congr same, List.flatMap_def, List.map_congr_left each, List.map_id',
      flatten_stretches, List.nil_append]

end Stretches

namespace Segment

theorem slashRun_sublist {m n : Nat} (fewer : m ≤ n) : (slashRun m).Sublist (slashRun n) :=
  (List.replicate_sublist_replicate '\\').mpr fewer

theorem shown_sublist (segment : Segment) : segment.shown.Sublist segment.source := by
  cases segment with
  | tag slashes body =>
      refine (slashRun_sublist (Nat.div_le_self slashes 2)).append ?_
      split
      · exact List.Sublist.refl _
      · exact List.nil_sublist _
  | plain slashes next =>
      by_cases opening : next = some '['
      · rw [shown, showPlain, source, if_pos (beq_iff_eq.mpr opening), opening]
        exact (slashRun_sublist (Nat.sub_le slashes 1)).append (List.Sublist.refl _)
      · rw [shown, showPlain, source, if_neg (by simpa using opening)]

theorem shown_tag_ne (slashes : Nat) (body : List Char) :
    (tag slashes body).shown ≠ (tag slashes body).source := by
  intro same
  have sizes := congrArg List.length same
  unfold shown source at sizes
  simp only [List.length_append, slashRun, List.length_replicate] at sizes
  split at sizes
  · omega
  · simp [bracketed] at sizes
    omega

/-- Only a bracket takes a backslash away. -/
theorem shown_plain_iff {slashes : Nat} {next : Option Char} :
    (plain slashes next).shown = (plain slashes next).source ↔
      (next = some '[' → slashes = 0) := by
  by_cases opening : next = some '['
  · cases slashes with
    | zero => simp [shown, showPlain, source, opening]
    | succ n => simp [shown, showPlain, source, opening, slashRun, List.replicate_succ]
  · simp [shown, showPlain, source, opening]

theorem shown_shielded_tag (slashes : Nat) (body : List Char) :
    (tag slashes body).shielded.shown = (tag slashes body).source := by
  have half : (2 * slashes + 1) / 2 = slashes := by omega
  have odd : (2 * slashes + 1) % 2 = 1 := by omega
  simp [shielded, shown, source, half, odd]

theorem shielded_plain {slashes : Nat} {next : Option Char} (other : ¬(slashes = 1 ∧ next = none)) :
    (plain slashes next).shielded = plain slashes next := by
  obtain _ | _ | n := slashes <;> cases next <;> simp_all [shielded]

end Segment

/-- A text with tags is shown as another text. -/
def Shows (s shown : List Char) : Prop :=
  ∃ cell, render s = .ok cell ∧ cell.text = shown

/-- A text that is shown as it stands: without tags, without a backslash that a bracket takes away,
without codes of emoji, and without characters that are never sent. -/
structure IsLiteral (s : List Char) : Prop where
  untagged : ¬HasTag s
  tight : ¬HasLooseSlash s
  uncoded : Emoji.replace s = s
  sendable : ∀ c ∈ s, isUnsent c = false

/-- A text that is shown as it stands after the escaping.  A single backslash at its end would be
doubled; a tag is harmless and keeps the colons on its two sides apart. -/
structure IsLiteralEscaped (s : List Char) : Prop where
  unended : endsInSlash s = false
  tight : ¬HasLooseSlash s
  uncoded : ∀ part ∈ parts s, Emoji.replace part = part
  sendable : ∀ c ∈ s, isUnsent c = false

section Shows

variable {s : List Char}

/-- What a text is shown as is no choice. -/
theorem shows_iff_of_render {shown : List Char} {cell : Marked} (found : render s = .ok cell) :
    Shows s shown ↔ cell.text = shown := by
  constructor
  · rintro ⟨other, again, text⟩
    rw [found] at again
    cases again
    exact text
  · exact fun text => ⟨cell, found, text⟩

/-- Plain segments show all that they are made of unless a bracket takes a backslash away. -/
theorem not_hasLooseSlash_iff :
    ¬HasLooseSlash s ↔ ∀ n next, Segment.plain n next ∈ segments s →
      (Segment.plain n next).shown = (Segment.plain n next).source := by
  rw [hasLooseSlash_iff]
  constructor
  · intro tight n next member
    refine Segment.shown_plain_iff.mpr fun opening => ?_
    cases n with
    | zero => rfl
    | succ n => exact absurd ⟨n, opening ▸ member⟩ tight
  · rintro same ⟨n, member⟩
    exact absurd (Segment.shown_plain_iff.mp (same _ _ member) rfl) (Nat.succ_ne_zero n)

theorem forall_shown_iff :
    (∀ segment ∈ segments s, segment.shown = segment.source) ↔ ¬HasTag s ∧ ¬HasLooseSlash s := by
  constructor
  · intro same
    refine ⟨fun tagged => ?_, not_hasLooseSlash_iff.mpr fun _ _ => same _⟩
    obtain ⟨n, body, member⟩ := hasTag_iff.mp tagged
    exact Segment.shown_tag_ne n body (same _ member)
  · rintro ⟨untagged, tight⟩ segment member
    cases segment with
    | tag n body => exact absurd (hasTag_iff.mpr ⟨n, body, member⟩) untagged
    | plain n next => exact not_hasLooseSlash_iff.mp tight n next member

/-- A text without tags is not refused. -/
theorem exists_render_of_not_hasTag (untagged : ¬HasTag s) : ∃ cell, render s = .ok cell :=
  exists_showSegments_of_odd
    (fun n body member => absurd (hasTag_iff.mpr ⟨n, body, member⟩) untagged) 0 0 [] []

theorem exists_render_escape (s : List Char) : ∃ cell, render (escape s) = .ok cell := by
  refine exists_showSegments_of_odd (fun n body member => ?_) 0 0 [] []
  rw [segments_escape] at member
  obtain ⟨segment, _, shape⟩ := List.mem_map.mp member
  obtain ⟨m, other⟩ | ⟨_ | _ | m, _ | c⟩ := segment <;> cases shape
  omega

theorem text_render {cell : Marked} (shown : render s = .ok cell) :
    cell.text = (stretches Segment.shown [] (segments s)).flatMap showText :=
  text_showSegments shown

/-- No character is lost between the parts of a text. -/
theorem flatten_parts (s : List Char) : (parts s).flatten = s := by
  rw [parts, flatten_stretches, flatMap_source_segments, List.nil_append]

theorem forall_parts_iff :
    (∀ part ∈ parts s, showText part = part) ↔
      (∀ part ∈ parts s, Emoji.replace part = part) ∧ ∀ c ∈ s, isUnsent c = false := by
  have members : (∀ part ∈ parts s, ∀ c ∈ part, isUnsent c = false) ↔
      ∀ c ∈ s, isUnsent c = false := by
    rw [← List.forall_mem_flatten, flatten_parts]
  rw [← members]
  simp only [showText_eq_self_iff, ← forall_and]

theorem parts_of_not_hasTag (untagged : ¬HasTag s) : parts s = [s] := by
  rw [parts, stretches_of_plain fun n body member => untagged (hasTag_iff.mpr ⟨n, body, member⟩),
    List.nil_append, flatMap_source_segments]

/-- **Just the literal texts are shown as they stand.** -/
theorem shows_self_iff : Shows s s ↔ IsLiteral s := by
  have exact_parts := flatMap_showText_stretches_iff Segment.shown (segments s)
    fun segment _ => segment.shown_sublist
  rw [flatMap_source_segments, forall_shown_iff] at exact_parts
  constructor
  · rintro ⟨cell, shown, text⟩
    obtain ⟨free, each⟩ := exact_parts.mp ((text_render shown).symm.trans text)
    obtain ⟨uncoded, sendable⟩ := showText_eq_self_iff.mp
      (each s (by rw [← parts, parts_of_not_hasTag free.1]; exact List.mem_singleton_self s))
    exact ⟨free.1, free.2, uncoded, sendable⟩
  · rintro ⟨untagged, tight, uncoded, sendable⟩
    obtain ⟨cell, shown⟩ := exists_render_of_not_hasTag untagged
    refine ⟨cell, shown, (text_render shown).trans (exact_parts.mpr ⟨⟨untagged, tight⟩, ?_⟩)⟩
    rw [← parts, parts_of_not_hasTag untagged]
    exact fun piece member =>
      List.mem_singleton.mp member ▸ showText_eq_self_iff.mpr ⟨uncoded, sendable⟩

theorem shielded_plain_of_mem {n : Nat} {next : Option Char} (unended : endsInSlash s = false)
    (member : Segment.plain n next ∈ segments s) :
    (Segment.plain n next).shielded = .plain n next := by
  refine Segment.shielded_plain ?_
  rintro ⟨rfl, rfl⟩
  rw [endsInSlash_iff.mpr member] at unended
  cases unended

theorem forall_shown_shielded_iff (unended : endsInSlash s = false) :
    (∀ segment ∈ segments s, segment.shielded.shown = segment.source) ↔ ¬HasLooseSlash s := by
  rw [not_hasLooseSlash_iff]
  constructor
  · intro same n next member
    have shown := same _ member
    rwa [shielded_plain_of_mem unended member] at shown
  · intro tight segment member
    cases segment with
    | tag n body => exact Segment.shown_shielded_tag n body
    | plain n next =>
        rw [shielded_plain_of_mem unended member]
        exact tight n next member

theorem shown_shielded_sublist (unended : endsInSlash s = false) :
    ∀ segment ∈ segments s, segment.shielded.shown.Sublist segment.source := by
  intro segment member
  cases segment with
  | tag n body => rw [Segment.shown_shielded_tag]
  | plain n next =>
      rw [shielded_plain_of_mem unended member]
      exact Segment.shown_sublist _

theorem text_render_escape {cell : Marked} (shown : render (escape s) = .ok cell) :
    cell.text =
      (stretches (fun segment => segment.shielded.shown) [] (segments s)).flatMap showText := by
  rw [text_render shown, segments_escape, stretches_map_shielded]

/-- Backslashes at the end are shown at the end. -/
theorem flatMap_showText_stretches_concat {part : Segment → List Char} {n m : Nat}
    (ending : part (.plain n none) = slashRun m) (start : List Char) (front : List Segment) :
    (stretches part start (front ++ [.plain n none])).flatMap showText =
      (stretches part start front).flatMap showText ++ slashRun m := by
  fun_induction stretches part start front with
  | case1 start => simp [stretches, ending, showText_append_slashRun]
  | case2 start slashes next rest ih => simpa [stretches] using ih
  | case3 start slashes body rest ih => simp [stretches, ih]

theorem endsInSlash_of_render_escape {cell : Marked} (ended : endsInSlash s = true)
    (shown : render (escape s) = .ok cell) : endsInSlash cell.text = false := by
  obtain ⟨front, whole⟩ := exists_concat_of_mem_segmentsFrom (endsInSlash_iff.mp ended)
  rw [← segments] at whole
  rw [text_render_escape shown, whole, flatMap_showText_stretches_concat (m := 2) rfl]
  simp [endsInSlash, slashRun]

/-- **Just the texts that are literal once they are escaped are shown as they were before.** -/
theorem shows_escape_iff : Shows (escape s) s ↔ IsLiteralEscaped s := by
  obtain ⟨cell, shown⟩ := exists_render_escape s
  cases ended : endsInSlash s with
  | true =>
      -- The backslash at the end was doubled, and nothing takes the second one away.
      refine iff_of_false ?_ fun literal => Bool.noConfusion (ended.symm.trans literal.unended)
      rintro ⟨other, found, text⟩
      have single := endsInSlash_of_render_escape ended found
      rw [text, ended] at single
      cases single
  | false =>
      have exact_parts :=
        flatMap_showText_stretches_iff _ (segments s) (shown_shielded_sublist ended)
      rw [flatMap_source_segments, forall_shown_shielded_iff ended, ← parts,
        forall_parts_iff] at exact_parts
      constructor
      · rintro ⟨other, found, text⟩
        obtain ⟨tight, uncoded, sendable⟩ :=
          exact_parts.mp ((text_render_escape found).symm.trans text)
        exact ⟨ended, tight, uncoded, sendable⟩
      · rintro ⟨_, tight, uncoded, sendable⟩
        exact ⟨cell, shown, (text_render_escape shown).trans
          (exact_parts.mpr ⟨tight, uncoded, sendable⟩)⟩

end Shows

end Markup

end CommandDocs.Console

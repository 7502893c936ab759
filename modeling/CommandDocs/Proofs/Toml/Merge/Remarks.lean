import CommandDocs.Proofs.Toml.Merge.Editing

/-!
# Comments that stay

Setting a key takes away the comments inside of the old value, and no others.  What is written as
a value has none.
-/

namespace CommandDocs.Toml

/-! ## Texts with and without comments -/

/-- A character that opens neither a comment nor a string. -/
def IsPlain (c : Char) : Prop :=
  c ∉ ['#', '"', '\'']

theorem remarksWithin_nil (fuel : Nat) : remarksWithin fuel [] = [] := by
  cases fuel <;> rfl

theorem readString_of_isPlain {c : Char} (plain : IsPlain c) (s : List Char) :
    readString (c :: s) = misfit := by
  simp only [IsPlain, List.mem_cons, List.not_mem_nil, or_false, not_or] at plain
  obtain ⟨-, double, single⟩ := plain
  unfold readString
  split
  · rename_i impossible
    exact absurd (List.cons.inj impossible).1 double
  · rename_i impossible
    exact absurd (List.cons.inj impossible).1 double
  · rename_i impossible
    exact absurd (List.cons.inj impossible).1 single
  · rename_i impossible
    exact absurd (List.cons.inj impossible).1 single
  · rfl

theorem remarksWithin_cons {c : Char} (plain : IsPlain c) (fuel : Nat) (s : List Char) :
    remarksWithin (fuel + 1) (c :: s) = remarksWithin fuel s := by
  have mark : (c == '#') = false := by
    simp only [IsPlain, List.mem_cons, not_or] at plain
    simpa using plain.1
  rw [remarksWithin, mark, readString_of_isPlain plain]
  rfl

/-- A text of plain characters has no comments. -/
theorem remarksWithin_of_isPlain {s : List Char} (plain : ∀ c ∈ s, IsPlain c) (fuel : Nat) :
    remarksWithin fuel s = [] := by
  induction s generalizing fuel with
  | nil => exact remarksWithin_nil fuel
  | cons c s ih =>
      obtain ⟨own, others⟩ := List.forall_mem_cons.mp plain
      cases fuel with
      | zero => rfl
      | succ fuel => rw [remarksWithin_cons own, ih others]

theorem isPlain_of_isGap {c : Char} (gap : Text.isGap c = true) : IsPlain c := by
  simp only [Text.isGap, Bool.or_eq_true, beq_iff_eq] at gap
  rcases gap with rfl | rfl <;> simp [IsPlain]

theorem isPlain_feed : IsPlain '\n' := by
  simp [IsPlain]

/-- The comment after some space. -/
theorem remarksWithin_remark {gap words feed : List Char} (white : IsSpace gap)
    (legal : IsWords words) (follows : Follows feed []) (fuel : Nat) :
    remarksWithin (gap.length + (fuel + 1)) (gap ++ '#' :: (words ++ feed)) = ['#' :: words] := by
  induction gap with
  | nil =>
      have rest : remarksWithin fuel feed = [] := by
        refine remarksWithin_of_isPlain (fun c member => ?_) fuel
        cases follows with
        | feed => exact List.mem_singleton.mp member ▸ isPlain_feed
        | nothing => cases member
      rw [List.nil_append, List.length_nil, Nat.zero_add, remarksWithin]
      simp only [beq_self_eq_true, if_true, takeWhile_words legal follows,
        dropWhile_words legal follows, rest]
  | cons c gap ih =>
      obtain ⟨own, others⟩ := List.forall_mem_cons.mp white
      rw [List.length_cons, Nat.add_right_comm, List.cons_append,
        remarksWithin_cons (isPlain_of_isGap own), ih others]

/-- A line feed makes no difference to the comment at the end of a line. -/
theorem remarksIn_tail_feed {tail : List Char} (ended : IsTail tail) :
    remarksIn (tail ++ ['\n']) = remarksIn tail := by
  unfold remarksIn
  cases ended with
  | space white =>
      have plain : ∀ c ∈ tail, IsPlain c := fun c member => isPlain_of_isGap (white c member)
      rw [remarksWithin_of_isPlain plain, remarksWithin_of_isPlain]
      exact List.forall_mem_append.mpr ⟨plain, by simpa using isPlain_feed⟩
  | @remark gap words white legal =>
      have fed := remarksWithin_remark white legal (.feed []) (words.length + 1)
      have bare := remarksWithin_remark white legal .nothing words.length
      rw [List.append_nil] at bare
      have long : (gap ++ '#' :: words ++ ['\n']).length = gap.length + (words.length + 1 + 1) := by
        simp only [List.length_append, List.length_cons, List.length_nil]
        omega
      rw [long, List.append_assoc, List.cons_append, fed, List.length_append, List.length_cons,
        bare]

/-! ## Written values -/

theorem remarksWithin_writeString (fuel : Nat) (s : String) {rest : List Char}
    (apart : rest.head? ≠ some '"') :
    remarksWithin (fuel + 1) (writeString s ++ rest) = remarksWithin fuel rest := by
  have read := readString_writeString s apart
  rw [writeString_append] at read ⊢
  rw [remarksWithin, read]
  rfl

theorem remarksIn_writeString (s : String) : remarksIn (writeString s) = [] := by
  have apart : ([] : List Char).head? ≠ some '"' := by simp
  have quoted := remarksWithin_writeString (s.toList.flatMap writeChar ++ ['"']).length s apart
  rw [List.append_nil, remarksWithin_nil] at quoted
  exact quoted

theorem remarksIn_writeInteger (n : Int) : remarksIn (writeInteger n) = [] := by
  refine remarksWithin_of_isPlain (fun c member => ?_) _
  rcases mem_writeInteger member with rfl | digit
  · simp [IsPlain]
  · exact forall_isDigit (P := IsPlain) (by simp [IsPlain]; decide) digit

theorem remarksWithin_itemsText (items : List String) (fuel : Nat) :
    remarksWithin fuel (itemsText items []) = [] := by
  induction items generalizing fuel with
  | nil =>
      refine remarksWithin_of_isPlain (fun c member => ?_) fuel
      rw [List.mem_singleton.mp member]
      simp [IsPlain]
  | cons item items ih =>
      cases fuel with
      | zero => rfl
      | succ fuel =>
          cases items with
          | nil =>
              rw [itemsText_singleton, remarksWithin_writeString fuel item (by simp)]
              exact ih fuel
          | cons next items =>
              rw [itemsText_cons, remarksWithin_writeString fuel item (by simp)]
              rcases fuel with _ | _ | fuel
              · rfl
              · rfl
              · rw [remarksWithin_cons (by simp [IsPlain]), remarksWithin_cons (by simp [IsPlain]),
                  ih]

theorem remarksIn_writeStrings (items : List String) : remarksIn (writeStrings items) = [] := by
  have written := writeStrings_append items []
  rw [List.append_nil] at written
  rw [remarksIn, written, List.length_cons, remarksWithin_cons (by simp [IsPlain])]
  exact remarksWithin_itemsText items _

/-! ## The comments on lines -/

/-- The comments on a line, but for those inside of the values of some keys. -/
def Strip.remarks (out : List (List String)) (strip : Strip) : List (List Char) :=
  remarksOn out [strip.cut]

section Lines

variable {out : List (List String)}

theorem remarksOn_cons (strip : Strip) (rest : List Cut) :
    remarksOn out (strip.cut :: rest) = strip.remarks out ++ remarksOn out rest := by
  obtain ⟨piece, closed⟩ := strip
  cases piece <;> simp [Strip.remarks, remarksOn, Strip.cut, Piece.cut]

/-- The comments on the lines before the first header come first. -/
theorem remarksOn_append (strips : List Strip) (rest : List Cut) :
    remarksOn out (strips.map Strip.cut ++ rest) =
      strips.flatMap (Strip.remarks out) ++ remarksOn out rest := by
  induction strips with
  | nil => rfl
  | cons strip strips ih =>
      rw [List.map_cons, List.cons_append, remarksOn_cons, ih, List.flatMap_cons, List.append_assoc]

theorem Strip.remarks_shut (strip : Strip) : strip.shut.remarks out = strip.remarks out := by
  obtain ⟨piece, closed⟩ := strip
  cases closed with
  | true => rfl
  | false =>
      cases piece with
      | blank gap white =>
          have same := remarksIn_tail_feed (.space white)
          simpa [shut, remarks, remarksOn, cut, Piece.cut, feed, Piece.text] using same
      | remark gap words white legal =>
          have same := remarksIn_tail_feed (.remark white legal)
          simpa [shut, remarks, remarksOn, cut, Piece.cut, feed, Piece.text] using same
      | field f =>
          have same := remarksIn_tail_feed f.ended
          simpa [shut, remarks, remarksOn, cut, Piece.cut, feed] using same

variable {name : String}

theorem Strip.remarks_of_not_opens {strip : Strip} (apart : ¬strip.Opens name) :
    strip.remarks ([name] :: out) = strip.remarks out := by
  obtain ⟨piece, closed⟩ := strip
  cases piece with
  | blank gap white => rfl
  | remark gap words white legal => rfl
  | field f =>
      have other : f.key ≠ [name] := fun same => apart ⟨f, rfl, by rw [same]; rfl⟩
      simp [remarks, remarksOn, cut, Piece.cut, other]

theorem flatMap_remarks_of_not_opens {strips : List Strip}
    (apart : ∀ strip ∈ strips, ¬strip.Opens name) :
    strips.flatMap (Strip.remarks ([name] :: out)) = strips.flatMap (Strip.remarks out) := by
  induction strips with
  | nil => rfl
  | cons strip rest ih =>
      obtain ⟨own, others⟩ := List.forall_mem_cons.mp apart
      rw [List.flatMap_cons, List.flatMap_cons, Strip.remarks_of_not_opens own, ih others]

theorem flatMap_remarks_shut (strips : List Strip) :
    (strips.map Strip.shut).flatMap (Strip.remarks out) = strips.flatMap (Strip.remarks out) := by
  rw [List.flatMap_map]
  exact congrArg (List.flatMap · strips) (funext fun strip => strip.remarks_shut)

variable {value : List Char} {content : Value} {key : IsKey (name.toList ++ [' ']) name}
  {literal : IsLiteral value content} {strips lines : List Strip}

/-- Setting a key to a value without comments takes away those inside of the old value alone. -/
theorem SetIn.remarks_eq (made : SetIn key literal strips lines) (silent : remarksIn value = []) :
    lines.flatMap (Strip.remarks out) = strips.flatMap (Strip.remarks ([name] :: out)) := by
  cases made with
  | @replaced front back f closed whole apart =>
      obtain ⟨before, behind⟩ := List.forall_mem_append.mp apart
      have own : Strip.remarks out ⟨.field (f.put literal), closed⟩ =
          Strip.remarks ([name] :: out) ⟨.field f, closed⟩ := by
        simp [Strip.remarks, remarksOn, Strip.cut, Piece.cut, Field.put, whole, silent, Strip.feed]
      simp only [List.flatMap_append, List.flatMap_cons, flatMap_remarks_of_not_opens before,
        flatMap_remarks_of_not_opens behind, own]
  | @added front back apart =>
      obtain ⟨before, behind⟩ := List.forall_mem_append.mp apart
      have fed : remarksIn ['\n'] = [] :=
        remarksWithin_of_isPlain (by simpa using isPlain_feed) _
      have new : Strip.remarks out ⟨.field (newField key literal), true⟩ = [] := by
        simp [Strip.remarks, remarksOn, Strip.cut, Piece.cut, newField, Entry.field,
          Layout.newEntryOf, silent, Strip.feed, fed]
      simp only [List.flatMap_append, List.flatMap_cons, flatMap_remarks_of_not_opens before,
        flatMap_remarks_of_not_opens behind, flatMap_remarks_shut, new, List.nil_append]

end Lines

end CommandDocs.Toml

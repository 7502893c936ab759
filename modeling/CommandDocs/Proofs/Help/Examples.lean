import CommandDocs.Proofs.Help.Forms

/-!
# Examples of a laid-out document

An example ends at the run of lines of gaps that closes it.  A body without such a run is cut
short at most by lines of gaps at its end, which do not show once it is trimmed.
-/

namespace CommandDocs.Help

open Layout

theorem readExamples_cons_of_not_anchor {line : Line} (free : exampleDigits? line = none)
    (rest : List Line) : readExamples (line :: rest) = readExamples rest := by
  cases rest with
  | nil => rfl
  | cons next others => simp [readExamples, free]

theorem readExamples_append_of_not_anchor {lines : List Line}
    (free : ∀ line ∈ lines, exampleDigits? line = none) (rest : List Line) :
    readExamples (lines ++ rest) = readExamples rest := by
  induction lines with
  | nil => rfl
  | cons line lines ih =>
      rw [List.cons_append, readExamples_cons_of_not_anchor (free line List.mem_cons_self)]
      exact ih fun other member => free other (List.mem_cons_of_mem _ member)

theorem opensBlankRun_of_gaps {a b c : Line} (ha : isGapLine a = true) (hb : isGapLine b = true)
    (hc : isGapLine c = true) {rest : List Line} (more : rest ≠ []) :
    opensBlankRun (a :: b :: c :: rest) = true := by
  cases rest with
  | nil => exact absurd rfl more
  | cons d rest => simp [opensBlankRun, ha, hb, hc]

theorem hasBlankRun_of_cons {line : Line} {lines : List Line}
    (compact : hasBlankRun (line :: lines) = false) : hasBlankRun lines = false := by
  match lines with
  | [] => rfl
  | [b] => rfl
  | b :: c :: rest =>
      simp only [hasBlankRun, Bool.or_eq_false_iff] at compact
      exact compact.2

/-- When a run of lines of gaps opens in a body without such a run, the rest of the body is made
of lines of gaps. -/
theorem all_gaps_of_opensBlankRun {body after : List Line} (compact : hasBlankRun body = false)
    (run : opensBlankRun (body ++ after) = true) : body.all isGapLine = true := by
  match body with
  | [] => rfl
  | [a] =>
      match after with
      | b :: c :: d :: rest =>
          simp only [List.cons_append, List.nil_append, opensBlankRun, Bool.and_eq_true] at run
          simp [run.1.1]
  | [a, b] =>
      match after with
      | c :: d :: rest =>
          simp only [List.cons_append, List.nil_append, opensBlankRun, Bool.and_eq_true] at run
          simp [run.1.1, run.1.2]
  | a :: b :: c :: rest =>
      simp only [hasBlankRun, Bool.or_eq_false_iff] at compact
      cases shape : rest ++ after with
      | nil => simp [opensBlankRun, shape] at run
      | cons d others =>
          simp only [List.cons_append, shape, opensBlankRun] at run
          rw [compact.1] at run
          cases run

/-- What an example is cut down to before a run of lines of gaps: at most lines of gaps at its
end are missing. -/
theorem exampleLines_append_closing {body closing rest : List Line}
    (lines : ∀ line ∈ body, isUnindented line = false ∧ exampleDigits? line = none)
    (compact : hasBlankRun body = false) (gaps : closing.all isGapLine = true)
    (three : 3 ≤ closing.length) (more : rest ≠ []) :
    ∃ kept run, body = kept ++ run ∧ run.all isGapLine = true ∧
      exampleLines (body ++ (closing ++ rest)) = kept := by
  induction body with
  | nil =>
      match closing, three with
      | a :: b :: c :: others, _ =>
          simp only [List.all_cons, Bool.and_eq_true] at gaps
          have run := opensBlankRun_of_gaps gaps.1 gaps.2.1 gaps.2.2.1
            (List.append_ne_nil_of_right_ne_nil others more)
          exact ⟨[], [], rfl, rfl, by simp [exampleLines, run]⟩
  | cons line body ih =>
      obtain ⟨indented, free⟩ := lines line List.mem_cons_self
      cases run : opensBlankRun ((line :: body) ++ (closing ++ rest)) with
      | true =>
          refine ⟨[], line :: body, rfl, all_gaps_of_opensBlankRun compact run, ?_⟩
          rw [List.cons_append] at run ⊢
          rw [exampleLines, run]
          rfl
      | false =>
          obtain ⟨kept, gapLines, split, gapRun, cut⟩ :=
            ih (fun other member => lines other (List.mem_cons_of_mem _ member))
              (hasBlankRun_of_cons compact)
          refine ⟨line :: kept, gapLines, by rw [split, List.cons_append], gapRun, ?_⟩
          rw [List.cons_append] at run ⊢
          rw [exampleLines, run, free, indented, cut]
          rfl

theorem all_blank_joinFeeds {run : List Line} (gaps : run.all isGapLine = true) :
    (Text.joinFeeds run).all Text.isBlank = true := by
  refine List.all_eq_true.mpr fun c member => ?_
  rcases Text.mem_joinWith member with rfl | ⟨line, hline, hc⟩
  · decide
  · exact Text.isBlank_of_isGap (List.all_eq_true.mp (List.all_eq_true.mp gaps line hline) c hc)

/-- Lines of gaps around a text do not show once it is trimmed. -/
theorem trim_joinFeeds_append_gaps (kept : List Line) {run : List Line}
    (gaps : run.all isGapLine = true) :
    Text.trim (Text.joinFeeds (kept ++ run)) = Text.trim (Text.joinFeeds kept) := by
  have blank := all_blank_joinFeeds gaps
  by_cases first : kept = []
  · subst first
    have whole := Text.trimBoth_append_of_all_left (t := []) blank
    rw [List.append_nil] at whole
    exact whole
  · by_cases last : run = []
    · rw [last, List.append_nil]
    · rw [Text.joinFeeds, Text.joinWith_append first last]
      refine Text.trimBoth_append_of_all ?_
      rw [List.all_cons, Bool.and_eq_true]
      exact ⟨by decide, blank⟩

theorem trim_joinFeeds_cons_gap {line : Line} (gap : isGapLine line = true) (lines : List Line) :
    Text.trim (Text.joinFeeds (line :: lines)) = Text.trim (Text.joinFeeds lines) := by
  have blank : line.all Text.isBlank = true :=
    List.all_eq_true.mpr fun c member => Text.isBlank_of_isGap (List.all_eq_true.mp gap c member)
  by_cases last : lines = []
  · subst last
    exact trim_of_isGapLine gap
  · rw [Text.joinFeeds, Text.joinWith_cons line last, ← List.singleton_append, ← List.append_assoc]
    refine Text.trimBoth_append_of_all_left ?_
    rw [List.all_append, Bool.and_eq_true]
    exact ⟨blank, by decide⟩

namespace Layout.Shown

variable (e : Shown)

theorem exampleDigits?_anchor : exampleDigits? e.anchor = some e.digits := by
  have rule : ∀ c ∈ '-' :: List.replicate e.left '-', c = '-' := by
    intro c member
    rcases List.mem_cons.mp member with same | later
    · exact same
    · exact (List.mem_replicate.mp later).2
  have ends : ∀ c ∈ (' ' :: '-' :: List.replicate e.right '-').head?, Text.isDecimal c = false := by
    rintro c ⟨⟩
    decide
  exact exampleDigits?_eq_some_iff.mpr
    ⟨e.digits_ne_nil, List.all_eq_true.mp e.digits_decimal, e.indent, _, [' '], [' '], _,
      e.isIndent.2, List.cons_ne_nil _ _, rule, by decide, by decide, ends, rfl⟩

/-- The lines that follow the anchor. -/
def inner (e : Shown) : List Line :=
  e.opening :: e.body ++ e.closing

theorem lines_eq : e.lines = e.anchor :: e.inner := rfl

theorem exampleDigits?_of_mem_inner {line : Line} (member : line ∈ e.inner) :
    exampleDigits? line = none := by
  rcases List.mem_append.mp member with front | back
  · rcases List.mem_cons.mp front with rfl | inBody
    · exact exampleDigits?_of_isGapLine e.opening_gaps
    · exact (e.body_lines line inBody).free
  · exact exampleDigits?_of_isGapLine (List.all_eq_true.mp e.closing_gaps line back)

/-- The lines after the anchor give back the body. -/
theorem trim_exampleLines {rest : List Line} (more : rest ≠ []) :
    Text.trim (Text.joinFeeds (exampleLines (e.inner ++ rest))) =
      Text.trim (Text.joinFeeds e.body) := by
  have lines : ∀ line ∈ e.opening :: e.body,
      isUnindented line = false ∧ exampleDigits? line = none := by
    intro line member
    rcases List.mem_cons.mp member with rfl | inBody
    · exact ⟨isUnindented_of_isGapLine e.opening_gaps, exampleDigits?_of_isGapLine e.opening_gaps⟩
    · exact ⟨(e.body_lines line inBody).indented, (e.body_lines line inBody).free⟩
  obtain ⟨kept, run, split, gaps, cut⟩ := exampleLines_append_closing lines e.body_compact
    e.closing_gaps e.closing_length more
  have whole : e.inner ++ rest = (e.opening :: e.body) ++ (e.closing ++ rest) := by
    simp [inner]
  rw [whole, cut, ← trim_joinFeeds_append_gaps kept gaps, ← split,
    trim_joinFeeds_cons_gap e.opening_gaps]

theorem readExamples_lines_append {rest : List Line} (more : rest ≠ []) {others : List Example}
    (read : readExamples rest = .ok others) :
    readExamples (e.lines ++ rest) = .ok (e.toExample :: others) := by
  have number : Text.readDigits e.digits = .ok (Text.decimalValue e.digits) := by
    rw [Text.readDigits, if_neg (Nat.not_lt.mpr e.digits_length)]
  have later : readExamples (e.inner ++ rest) = .ok others := by
    rw [readExamples_append_of_not_anchor fun line member => e.exampleDigits?_of_mem_inner member]
    exact read
  have body := e.trim_exampleLines more
  rw [lines_eq, List.cons_append]
  cases shape : e.inner ++ rest with
  | nil => exact absurd (List.append_eq_nil_iff.mp shape).2 more
  | cons next following =>
      rw [shape] at later body
      simp only [readExamples, e.exampleDigits?_anchor, number, later, body, bind, Except.bind,
        pure, Except.pure]
      rfl

end Layout.Shown

theorem readExamples_shown (shown : List Shown) {rest : List Line} (more : rest ≠ [])
    (read : readExamples rest = .ok []) :
    readExamples (shown.flatMap Shown.lines ++ rest) = .ok (shown.map Shown.toExample) := by
  induction shown with
  | nil => exact read
  | cons e others ih =>
      rw [List.flatMap_cons, List.append_assoc, List.map_cons]
      exact e.readExamples_lines_append (List.append_ne_nil_of_right_ne_nil _ more) ih

end CommandDocs.Help

import CommandDocs.Proofs.Help.Forms
import CommandDocs.Proofs.Help.Places
import CommandDocs.Proofs.Help.Reading

/-!
# Where the examples come from

Every anchor that is ended by a line feed gives one example.  Its body begins on the next line and
ends before three lines of gaps, before the next anchor or before an unindented line, whichever
comes first.  A text is refused exactly when the number on one of these anchors is oversized.
-/

namespace CommandDocs.Help

open Layout

/-! ## Bodies -/

/-- Three lines of gaps open the lines, each ended by a line feed; the third is so because there
is a line behind it. -/
def OpensGapRun (lines : List Line) : Prop :=
  ∃ a b c d rest, lines = a :: b :: c :: d :: rest ∧
    isGapLine a = true ∧ isGapLine b = true ∧ isGapLine c = true

/-- What cannot belong to the body of an example opens the lines. -/
def EndsBody (lines : List Line) : Prop :=
  OpensGapRun lines ∨ Starts (fun line => ∃ digits, IsExampleAnchor line digits) lines ∨
    Starts (fun line => isUnindented line = true) lines

theorem opensBlankRun_iff {lines : List Line} :
    opensBlankRun lines = true ↔ OpensGapRun lines := by
  constructor
  · intro opens
    unfold opensBlankRun at opens
    split at opens
    · rename_i a b c d rest
      simp only [Bool.and_eq_true] at opens
      exact ⟨a, b, c, d, rest, rfl, opens.1.1, opens.1.2, opens.2⟩
    · cases opens
  · rintro ⟨a, b, c, d, rest, rfl, first, second, third⟩
    simp [opensBlankRun, first, second, third]

theorem isSome_exampleDigits?_iff {line : Line} :
    (exampleDigits? line).isSome = true ↔ ∃ digits, IsExampleAnchor line digits := by
  simp only [← exampleDigits?_eq_some_iff, Option.isSome_iff_exists]

theorem endsBody_cons_iff {line : Line} {rest : List Line} :
    EndsBody (line :: rest) ↔ (opensBlankRun (line :: rest) || (exampleDigits? line).isSome ||
      isUnindented line) = true := by
  rw [EndsBody, starts_cons, starts_cons, ← isSome_exampleDigits?_iff, ← opensBlankRun_iff]
  simp [or_assoc]

theorem exampleLines_upTo (lines : List Line) : UpTo EndsBody lines (exampleLines lines) := by
  induction lines with
  | nil => exact upTo_nil
  | cons line rest ih =>
      unfold exampleLines
      split
      · rename_i ends
        exact upTo_of_stops (endsBody_cons_iff.mpr ends)
      · rename_i goes
        exact ih.cons fun ends => goes (endsBody_cons_iff.mp ends)

/-! ## Examples -/

/-- An anchor that is ended by a line feed opens the lines. -/
def OpensExample (lines : List Line) : Prop :=
  ∃ anchor rest digits, lines = anchor :: rest ∧ rest ≠ [] ∧ IsExampleAnchor anchor digits

/-- An anchor that is ended by a line feed opens the lines, and this is the example that it gives
with its body: the lines from the next one up to what ends them, joined and without the blanks
around them. -/
def ExampleAt (lines : List Line) (e : Example) : Prop :=
  ∃ anchor rest digits body, lines = anchor :: rest ∧ rest ≠ [] ∧ IsExampleAnchor anchor digits ∧
    UpTo EndsBody rest body ∧ e.number = (Text.decimalValue digits : Nat) ∧
    e.body.toList = Text.trim (Text.joinFeeds body)

/-- The number on some anchor that is ended by a line feed has too many digits. -/
def HasOversized (lines : List Line) : Prop :=
  ∃ line ∈ lines.dropLast, ∃ digits, IsExampleAnchor line digits ∧ Text.digitLimit < digits.length

theorem isSome_firstOversized?_iff {lines : List Line} :
    (firstOversized? lines).isSome = true ↔ HasOversized lines := by
  unfold firstOversized? HasOversized
  rw [List.findSome?_isSome_iff]
  refine exists_congr fun line => and_congr_right fun _ => ?_
  simp only [Option.isSome_iff_exists, oversized?_eq_some_iff, exampleDigits?_eq_some_iff]
  constructor
  · rintro ⟨count, digits, anchor, large, _⟩
    exact ⟨digits, anchor, large⟩
  · rintro ⟨digits, anchor, large⟩
    exact ⟨digits.length, digits, anchor, large, rfl⟩

theorem readExamples_inOrder {lines : List Line} {examples : List Example}
    (read : readExamples lines = .ok examples) :
    InOrder OpensExample ExampleAt lines examples := by
  induction lines generalizing examples with
  | nil =>
      cases read
      refine inOrder_nil ?_
      rintro ⟨anchor, rest, digits, same, _⟩
      cases same
  | cons line rest ih =>
      cases rest with
      | nil =>
          cases read
          refine (ih rfl).cons ?_
          rintro ⟨anchor, rest, digits, same, more, _⟩
          cases same
          exact more rfl
      | cons next others =>
          rw [readExamples_cons_cons] at read
          cases large : oversized? line with
          | some count =>
              rw [large] at read
              cases read
          | none =>
              cases found : exampleDigits? line with
              | none =>
                  rw [large, found] at read
                  refine (ih read).cons ?_
                  rintro ⟨anchor, rest, digits, same, _, shape⟩
                  cases same
                  rw [exampleDigits?_eq_some_iff.mpr shape] at found
                  cases found
              | some digits =>
                  rw [large, found] at read
                  have shape := exampleDigits?_eq_some_iff.mp found
                  cases later : readExamples (next :: others) with
                  | error fault =>
                      rw [later] at read
                      cases read
                  | ok more =>
                      rw [later] at read
                      cases read
                      refine (ih later).cons_of_marks
                        ⟨line, _, digits, rfl, List.cons_ne_nil _ _, shape⟩
                        ⟨line, _, digits, _, rfl, List.cons_ne_nil _ _, shape,
                          exampleLines_upTo _, rfl, ?_⟩
                      rw [String.toList_ofList]

/-- **The examples are the anchors that are ended by line feeds, each with its own body.**  A text
is refused exactly when the number on one of these anchors has too many digits.  Any other text
gives one example for each of them, in their order and with their numbers, and no body goes on
behind the next anchor. -/
theorem examples_inOrder (text : String) :
    ((∃ count, extract text = .error (.tooLong count)) ↔ HasOversized (linesOf text)) ∧
      (¬HasOversized (linesOf text) → ∃ fields, extract text = .ok fields ∧
        InOrder OpensExample ExampleAt (linesOf text) fields.examples) := by
  rw [← isSome_firstOversized?_iff, Option.isSome_iff_exists]
  constructor
  · exact exists_congr fun count => by simp [extract_eq_error_iff]
  · intro small
    cases found : extract text with
    | error fault =>
        obtain ⟨count, large, _⟩ := extract_eq_error_iff.mp found
        exact absurd ⟨count, large⟩ small
    | ok fields =>
        obtain ⟨examples, read, rfl⟩ := exists_of_extract_eq_ok found
        exact ⟨_, rfl, readExamples_inOrder read⟩

/-- Anchors without indentation, one right behind the other, with digits of another script and
with leading zeros; a run of gap lines, a run that is too short, and an anchor that no line feed
ends. -/
def numbered : String :=
  "--EXAMPLE 1\n-- EXAMPLE \u0662x 9\n  body\n\t\n\n \n  lost\n  - EXAMPLE 003\n \n  a\n\n\n b\n" ++
    "END\n - EXAMPLE 4"

def numberedExamples : List Example :=
  [⟨1, ""⟩, ⟨2, "body"⟩, ⟨3, "a\n\n\n b"⟩]

theorem examples_numbered :
    ¬HasOversized (linesOf numbered) ∧ extract numbered = .ok { examples := numberedExamples } ∧
      InOrder OpensExample ExampleAt (linesOf numbered) numberedExamples := by
  have given : extract numbered = .ok { examples := numberedExamples } := by decide +kernel
  have small : ¬HasOversized (linesOf numbered) := by
    intro large
    obtain ⟨count, refused⟩ := (examples_inOrder numbered).1.mpr large
    rw [given] at refused
    cases refused
  obtain ⟨fields, read, inOrder⟩ := (examples_inOrder numbered).2 small
  rw [given] at read
  cases read
  exact ⟨small, given, inOrder⟩

end CommandDocs.Help

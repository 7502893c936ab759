import CommandDocs.Help.Extract
import CommandDocs.Proofs.Text.Lines

/-!
# Lines of gaps in help text

Outside the examples a line of gaps says nothing.  Every reader below gives the same answer on
a help text and on its solid lines, which are the lines that are not made of gaps.
-/

namespace CommandDocs.Help

open Layout

namespace Layout

def solidLines (lines : List Line) : List Line :=
  lines.filter fun line => !isGapLine line

theorem solidLines_cons_of_gap {line : Line} (gap : isGapLine line = true) (rest : List Line) :
    solidLines (line :: rest) = solidLines rest := by
  simp [solidLines, gap]

theorem solidLines_cons_of_solid {line : Line} (solid : isGapLine line = false)
    (rest : List Line) : solidLines (line :: rest) = line :: solidLines rest := by
  simp [solidLines, solid]

theorem solidLines_append (first second : List Line) :
    solidLines (first ++ second) = solidLines first ++ solidLines second :=
  List.filter_append first second

theorem mem_solidLines {line : Line} {lines : List Line} :
    line ∈ solidLines lines ↔ line ∈ lines ∧ isGapLine line = false := by
  simp [solidLines]

/-! ## What a line of gaps is not -/

theorem dropWhile_of_isGapLine {line : Line} (gap : isGapLine line = true) :
    line.dropWhile Text.isGap = [] :=
  List.dropWhile_eq_nil_iff.mpr (List.all_eq_true.mp gap)

theorem isGapLine_append (first second : Line) :
    isGapLine (first ++ second) = (isGapLine first && isGapLine second) :=
  List.all_append

theorem isUnindented_of_isGapLine {line : Line} (gap : isGapLine line = true) :
    isUnindented line = false := by
  cases line with
  | nil => rfl
  | cons c rest =>
      simp only [isGapLine, List.all_cons, Bool.and_eq_true] at gap
      simp [isUnindented, Text.isBlank_of_isGap gap.1]

theorem isHeader_of_isGapLine {header : String} (solid : isGapLine header.toList = false)
    {line : Line} (gap : isGapLine line = true) : isHeader header line = false := by
  unfold isHeader
  cases start : Text.afterStart? header.toList line with
  | none => rfl
  | some rest =>
      rw [Text.afterStart?_eq_some_iff.mp start, isGapLine_append, solid] at gap
      cases gap

theorem afterLabel?_of_isGapLine (label : String) (nonempty : label.toList ≠ []) {line : Line}
    (gap : isGapLine line = true) : afterLabel? label line = none := by
  unfold afterLabel?
  rw [dropWhile_of_isGapLine gap]
  cases start : label.toList with
  | nil => exact absurd start nonempty
  | cons c rest => rfl

theorem isCommonParameters_of_isGapLine {line : Line} (gap : isGapLine line = true) :
    isCommonParameters line = false := by
  rw [isCommonParameters, afterLabel?_of_isGapLine "<CommonParameters>" (by decide) gap]
  rfl

theorem anchor?_of_isGapLine {line : Line} (gap : isGapLine line = true) :
    anchor? line = none := by
  simp [anchor?, dropWhile_of_isGapLine gap]

theorem exampleDigits?_of_isGapLine {line : Line} (gap : isGapLine line = true) :
    exampleDigits? line = none := by
  simp [exampleDigits?, dropWhile_of_isGapLine gap]

theorem trim_of_isGapLine {line : Line} (gap : isGapLine line = true) : Text.trim line = [] := by
  have blank : line.all Text.isBlank = true :=
    List.all_eq_true.mpr fun c member => Text.isBlank_of_isGap (List.all_eq_true.mp gap c member)
  rw [Text.trim, ← List.append_nil line, Text.trimBoth_append_of_all_left blank]
  rfl

end Layout

/-! ## Sections of one value -/

theorem sectionValue?_cons_of_gap {line : Line} (gap : isGapLine line = true)
    (rest : List Line) : sectionValue? (line :: rest) = sectionValue? rest := by
  simp [sectionValue?, gap]

theorem sectionValue?_solidLines (lines : List Line) :
    sectionValue? (solidLines lines) = sectionValue? lines := by
  induction lines with
  | nil => rfl
  | cons line rest ih =>
      cases gap : isGapLine line with
      | true => rw [solidLines_cons_of_gap gap, ih, sectionValue?_cons_of_gap gap]
      | false => simp [solidLines_cons_of_solid gap, sectionValue?, gap]

/-- The value of a section is read off the solid lines. -/
theorem scalar_solidLines {header : String} (solid : isGapLine header.toList = false)
    (lines : List Line) : scalar header (solidLines lines) = scalar header lines := by
  induction lines with
  | nil => rfl
  | cons line rest ih =>
      cases gap : isGapLine line with
      | true =>
          rw [solidLines_cons_of_gap gap, ih, scalar, isHeader_of_isGapLine solid gap]
          rfl
      | false =>
          rw [solidLines_cons_of_solid gap, scalar, scalar, sectionValue?_solidLines, ih]

/-! ## The parameters section -/

theorem takeWhile_solidLines {test : Line → Bool}
    (passes : ∀ line, isGapLine line = true → test line = true) (lines : List Line) :
    (solidLines lines).takeWhile test = solidLines (lines.takeWhile test) := by
  induction lines with
  | nil => rfl
  | cons line rest ih =>
      cases gap : isGapLine line with
      | true =>
          rw [solidLines_cons_of_gap gap, ih, List.takeWhile_cons_of_pos (passes line gap),
            solidLines_cons_of_gap gap]
      | false =>
          rw [solidLines_cons_of_solid gap]
          cases passed : test line with
          | true =>
              rw [List.takeWhile_cons_of_pos passed, List.takeWhile_cons_of_pos passed,
                solidLines_cons_of_solid gap, ih]
          | false => simp [passed, solidLines]

theorem parametersSection_cons_header {line : Line} (header : isHeader "PARAMETERS" line = true)
    (rest : List Line) :
    parametersSection (line :: rest) =
      (rest.takeWhile fun l => !isUnindented l).takeWhile fun l => !isCommonParameters l := by
  cases rest with
  | nil => rfl
  | cons next others => simp [parametersSection, parametersSection?, header]

theorem parametersSection_cons_of_not_header {line : Line}
    (other : isHeader "PARAMETERS" line = false) (rest : List Line) :
    parametersSection (line :: rest) = parametersSection rest := by
  cases rest with
  | nil => rfl
  | cons next others => simp [parametersSection, parametersSection?, other]

theorem parametersSection_solidLines (lines : List Line) :
    parametersSection (solidLines lines) = solidLines (parametersSection lines) := by
  induction lines with
  | nil => rfl
  | cons line rest ih =>
      cases gap : isGapLine line with
      | true =>
          rw [solidLines_cons_of_gap gap, ih,
            parametersSection_cons_of_not_header (isHeader_of_isGapLine (by decide) gap)]
      | false =>
          rw [solidLines_cons_of_solid gap]
          cases header : isHeader "PARAMETERS" line with
          | true =>
              rw [parametersSection_cons_header header, parametersSection_cons_header header,
                takeWhile_solidLines fun l h => by simp [isUnindented_of_isGapLine h],
                takeWhile_solidLines fun l h => by simp [isCommonParameters_of_isGapLine h]]
          | false =>
              rw [parametersSection_cons_of_not_header header,
                parametersSection_cons_of_not_header header, ih]

/-! ## Blocks of parameters -/

theorem blockLines_solidLines (lines : List Line) :
    blockLines (solidLines lines) = solidLines (blockLines lines) :=
  takeWhile_solidLines (fun line gap => by simp [anchor?_of_isGapLine gap]) lines

theorem blockDescription_solidLines (lines : List Line) :
    blockDescription (solidLines lines) = blockDescription lines := by
  induction lines with
  | nil => rfl
  | cons line rest ih =>
      cases gap : isGapLine line with
      | true =>
          rw [solidLines_cons_of_gap gap, ih, blockDescription]
          simp [trim_of_isGapLine gap]
      | false => simp only [solidLines_cons_of_solid gap, blockDescription, ih]

theorem blockField_solidLines (label : String) (nonempty : label.toList ≠ [])
    (lines : List Line) : blockField label (solidLines lines) = blockField label lines := by
  have found : (solidLines lines).findSome? (afterLabel? label) =
      lines.findSome? (afterLabel? label) := by
    induction lines with
    | nil => rfl
    | cons line rest ih =>
        cases gap : isGapLine line with
        | true =>
            rw [solidLines_cons_of_gap gap, ih, List.findSome?_cons,
              afterLabel?_of_isGapLine label nonempty gap]
        | false => rw [solidLines_cons_of_solid gap, List.findSome?_cons, List.findSome?_cons, ih]
  rw [blockField, blockField, found]

theorem readParameter_solidLines (name type : Line) (block : List Line) :
    readParameter name type (solidLines block) = readParameter name type block := by
  simp only [readParameter, blockDescription_solidLines,
    blockField_solidLines "Required?" (by decide),
    blockField_solidLines "Position?" (by decide),
    blockField_solidLines "Default value" (by decide),
    blockField_solidLines "Accept pipeline input?" (by decide),
    blockField_solidLines "Accept wildcard characters?" (by decide)]

theorem readParameters_solidLines (lines : List Line) :
    readParameters (solidLines lines) = readParameters lines := by
  induction lines with
  | nil => rfl
  | cons line rest ih =>
      cases gap : isGapLine line with
      | true =>
          rw [solidLines_cons_of_gap gap, ih, readParameters, anchor?_of_isGapLine gap]
      | false =>
          rw [solidLines_cons_of_solid gap, readParameters, readParameters, blockLines_solidLines,
            ih]
          cases anchor? line with
          | none => rfl
          | some pair => simp only [readParameter_solidLines]

end CommandDocs.Help

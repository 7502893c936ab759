import CommandDocs.Proofs.Help.Document

/-!
# Sections of a laid-out document

A paragraph is the value of the section whose header stands above it, and no reader takes an
indented line for a header.
-/

namespace CommandDocs.Help

open Layout

namespace Layout

/-! ## Indented lines -/

theorem IsIndent.exists_cons {indent : Line} (h : IsIndent indent) :
    ∃ c rest, indent = c :: rest ∧ Text.isGap c = true := by
  obtain ⟨nonempty, gaps⟩ := h
  cases indent with
  | nil => exact absurd rfl nonempty
  | cons c rest =>
      simp only [isGapLine, List.all_cons, Bool.and_eq_true] at gaps
      exact ⟨c, rest, rfl, gaps.1⟩

theorem isIndent_replicate (n : Nat) : IsIndent (List.replicate (n + 1) ' ') := by
  refine ⟨by simp, ?_⟩
  rw [isGapLine, List.all_replicate, if_neg (Nat.succ_ne_zero n)]
  decide

theorem isUnindented_indent_append {indent : Line} (h : IsIndent indent) (text : Line) :
    isUnindented (indent ++ text) = false := by
  obtain ⟨c, rest, rfl, gap⟩ := h.exists_cons
  simp [isUnindented, Text.isBlank_of_isGap gap]

theorem isGap_of_isUnindented {c : Char} {rest : Line} (h : isUnindented (c :: rest) = true) :
    Text.isGap c = false := by
  cases gap : Text.isGap c with
  | false => rfl
  | true => simp [isUnindented, Text.isBlank_of_isGap gap] at h

theorem isHeader_indent_append {header : String} (hheader : isUnindented header.toList = true)
    {indent : Line} (h : IsIndent indent) (text : Line) :
    isHeader header (indent ++ text) = false := by
  obtain ⟨c, rest, rfl, gap⟩ := h.exists_cons
  unfold isHeader
  cases start : header.toList with
  | nil => rw [start] at hheader; cases hheader
  | cons first others =>
      rw [start] at hheader
      have distinct : (first == c) = false := by
        simpa using fun same : first = c => by
          rw [← same, isGap_of_isUnindented hheader] at gap
          cases gap
      simp [Text.afterStart?, distinct]

theorem dropWhile_gaps_append {gaps : Line} (h : isGapLine gaps = true) (text : Line) :
    (gaps ++ text).dropWhile Text.isGap = text.dropWhile Text.isGap :=
  List.dropWhile_append_of_pos (List.all_eq_true.mp h)

theorem afterLabel?_gaps_append (label : String) {gaps : Line} (h : isGapLine gaps = true)
    (text : Line) : afterLabel? label (gaps ++ text) = afterLabel? label text := by
  rw [afterLabel?, afterLabel?, dropWhile_gaps_append h]

theorem exampleDigits?_gaps_append {gaps : Line} (h : isGapLine gaps = true) (text : Line) :
    exampleDigits? (gaps ++ text) = exampleDigits? text := by
  rw [exampleDigits?, exampleDigits?, dropWhile_gaps_append h]

theorem isCommonParameters_gaps_append {gaps : Line} (h : isGapLine gaps = true) (text : Line) :
    isCommonParameters (gaps ++ text) = isCommonParameters text := by
  rw [isCommonParameters, isCommonParameters, afterLabel?_gaps_append _ h]

/-! ## Paragraphs -/

/-- A text without surrounding blanks starts with a character that is no blank. -/
theorem isUnindented_of_trimmed {s : Line} (nonempty : s ≠ []) (trimmed : Text.trim s = s) :
    isUnindented s = true := by
  cases s with
  | nil => exact absurd rfl nonempty
  | cons c rest =>
      cases blank : Text.isBlank c with
      | false => simp [isUnindented, blank]
      | true =>
          have shorter : (Text.trim (c :: rest)).length ≤ rest.length := by
            unfold Text.trim Text.trimBoth
            rw [List.dropWhile_cons_of_pos blank]
            exact Nat.le_trans (List.rdropWhile_prefix _ _).length_le
              (List.dropWhile_sublist _).length_le
          rw [trimmed, List.length_cons] at shorter
          exact absurd shorter (Nat.not_succ_le_self _)

theorem dropWhile_of_isUnindented {s : Line} (h : isUnindented s = true) :
    s.dropWhile Text.isGap = s := by
  cases s with
  | nil => rfl
  | cons c rest => exact List.dropWhile_cons_of_neg (by simp [isGap_of_isUnindented h])

theorem isUnindented_append {first : Line} (h : isUnindented first = true) (second : Line) :
    isUnindented (first ++ second) = true := by
  cases first with
  | nil => cases h
  | cons c rest => exact h

theorem IsParagraph.isUnindented {s : Line} (h : IsParagraph s) : isUnindented s = true :=
  isUnindented_of_trimmed h.ne_nil h.trimmed

theorem isGapLine_of_isUnindented {s : Line} (h : Layout.isUnindented s = true) :
    isGapLine s = false := by
  cases s with
  | nil => cases h
  | cons c rest => simp [isGapLine, isGap_of_isUnindented h]

theorem sectionValue?_indent_append {indent text : Line} (h : IsIndent indent)
    (unindented : isUnindented text = true) (trimmed : Text.trim text = text)
    (rest : List Line) : sectionValue? ((indent ++ text) :: rest) = some text := by
  have solid : isGapLine (indent ++ text) = false := by
    rw [isGapLine_append, isGapLine_of_isUnindented unindented, Bool.and_false]
  have inside : (indent ++ text).dropWhile Text.isGap = text := by
    rw [dropWhile_gaps_append h.2, dropWhile_of_isUnindented unindented]
  have blank : indent.all Text.isBlank = true :=
    List.all_eq_true.mpr fun c member => Text.isBlank_of_isGap (List.all_eq_true.mp h.2 c member)
  have value : Text.trim (indent ++ text) = text :=
    (Text.trimBoth_append_of_all_left blank).trans trimmed
  obtain ⟨c, others, rfl, gap⟩ := h.exists_cons
  simp only [List.cons_append] at solid inside value ⊢
  simp [sectionValue?, solid, inside, unindented, value, gap]

theorem Paragraph.sectionValue?_line (p : Paragraph) (rest : List Line) :
    sectionValue? (p.line :: rest) = some p.text :=
  sectionValue?_indent_append p.isIndent p.isParagraph.isUnindented p.isParagraph.trimmed rest

theorem Paragraph.isHeader_line {header : String}
    (hheader : Layout.isUnindented header.toList = true) (p : Paragraph) :
    isHeader header p.line = false :=
  isHeader_indent_append hheader p.isIndent p.text

end Layout

/-! ## The sections of one paragraph -/

theorem scalar_cons_of_not_header {header : String} {line : Line}
    (other : isHeader header line = false) (rest : List Line) :
    scalar header (line :: rest) = scalar header rest := by
  simp [scalar, other]

theorem scalar_cons_header {header : String} {line : Line} (here : isHeader header line = true)
    (p : Paragraph) (rest : List Line) : scalar header (line :: p.line :: rest) = p.text := by
  simp [scalar, here, p.sectionValue?_line]

namespace Document

variable (doc : Document) (rest : List Line)

theorem scalar_name : scalar "NAME" (doc.scalarLines ++ rest) = doc.name.text :=
  scalar_cons_header (by decide) doc.name _

/-- Passing over one section of one paragraph. -/
theorem scalar_cons_cons {header : String} (hheader : isUnindented header.toList = true)
    {line : Line} (other : isHeader header line = false) (p : Paragraph) (rest : List Line) :
    scalar header (line :: p.line :: rest) = scalar header rest := by
  rw [scalar_cons_of_not_header other, scalar_cons_of_not_header (p.isHeader_line hheader)]

theorem scalar_synopsis : scalar "SYNOPSIS" (doc.scalarLines ++ rest) = doc.synopsis.text := by
  unfold scalarLines
  simp only [List.cons_append]
  rw [scalar_cons_cons (by decide) (by decide), scalar_cons_header (by decide)]

theorem scalar_usage : scalar "SYNTAX" (doc.scalarLines ++ rest) = doc.usage.text := by
  unfold scalarLines
  simp only [List.cons_append]
  rw [scalar_cons_cons (by decide) (by decide), scalar_cons_cons (by decide) (by decide),
    scalar_cons_header (by decide)]

theorem scalar_description :
    scalar "DESCRIPTION" (doc.scalarLines ++ rest) = doc.description.text := by
  unfold scalarLines
  simp only [List.cons_append]
  rw [scalar_cons_cons (by decide) (by decide), scalar_cons_cons (by decide) (by decide),
    scalar_cons_cons (by decide) (by decide), scalar_cons_header (by decide)]

theorem parametersSection_scalarLines :
    parametersSection (doc.scalarLines ++ rest) = parametersSection rest := by
  have pass {line : Line} (other : isHeader "PARAMETERS" line = false) (p : Paragraph)
      (rest : List Line) :
      parametersSection (line :: p.line :: rest) = parametersSection rest := by
    rw [parametersSection_cons_of_not_header other,
      parametersSection_cons_of_not_header (p.isHeader_line (by decide))]
  unfold scalarLines
  simp only [List.cons_append, List.nil_append]
  rw [pass (by decide), pass (by decide), pass (by decide), pass (by decide)]

end Document

end CommandDocs.Help

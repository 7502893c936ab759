import CommandDocs.Proofs.Help.Forms
import CommandDocs.Proofs.Help.Places
import CommandDocs.Proofs.Help.Reading

/-!
# Where the value of a section comes from

A header gives a value when the first line behind it that is not made of gaps is indented by gaps
and has no other blank after them.  The value of a section comes from the first header that gives
one; headers that give none are passed over, and without any the value is empty.
-/

namespace CommandDocs.Help

open Layout

/-- An indented line, perhaps with lines of gaps before it, opens the lines, and this is its text
without the blanks around it. -/
def OpensWith (lines : List Line) (value : Line) : Prop :=
  ∃ gaps line others, (∀ gap ∈ gaps, isGapLine gap = true) ∧ IsIndented line ∧
    lines = gaps ++ line :: others ∧ value = Text.trim line

/-- A header opens the lines, and the lines behind it open with a value. -/
def SectionAt (header : String) (lines : List Line) (value : Line) : Prop :=
  ∃ line rest, lines = line :: rest ∧ IsHeaderLine header line ∧ OpensWith rest value

/-! ## One section -/

theorem opensWith_cons_of_gap {line : Line} (gap : isGapLine line = true) {rest : List Line}
    {value : Line} : OpensWith (line :: rest) value ↔ OpensWith rest value := by
  constructor
  · rintro ⟨gaps, first, others, all, indented, same, rfl⟩
    cases gaps with
    | nil =>
        cases same
        rw [indented.solid] at gap
        cases gap
    | cons g gaps =>
        cases same
        exact ⟨gaps, first, others, fun l member => all l (List.mem_cons_of_mem _ member),
          indented, rfl, rfl⟩
  · rintro ⟨gaps, first, others, all, indented, rfl, rfl⟩
    exact ⟨line :: gaps, first, others, List.forall_mem_cons.mpr ⟨gap, all⟩, indented, rfl, rfl⟩

theorem opensWith_cons_of_solid {line : Line} (solid : isGapLine line = false) {rest : List Line}
    {value : Line} :
    OpensWith (line :: rest) value ↔ IsIndented line ∧ value = Text.trim line := by
  constructor
  · rintro ⟨gaps, first, others, all, indented, same, rfl⟩
    cases gaps with
    | nil =>
        cases same
        exact ⟨indented, rfl⟩
    | cons g gaps =>
        cases same
        rw [all _ List.mem_cons_self] at solid
        cases solid
  · rintro ⟨indented, rfl⟩
    exact ⟨[], line, rest, List.forall_mem_nil _, indented, rfl, rfl⟩

theorem sectionValue?_eq_some_iff {lines : List Line} {value : Line} :
    sectionValue? lines = some value ↔ OpensWith lines value := by
  induction lines with
  | nil =>
      constructor
      · intro found
        cases found
      · rintro ⟨gaps, first, others, _, _, same, _⟩
        cases gaps <;> cases same
  | cons line rest ih =>
      cases gap : isGapLine line with
      | true => rw [sectionValue?_cons_of_gap gap, opensWith_cons_of_gap gap, ih]
      | false =>
          rw [opensWith_cons_of_solid gap]
          cases line with
          | nil => cases gap
          | cons c text =>
              rw [isIndented_iff, ← Bool.and_eq_true, sectionValue?, gap, if_neg Bool.false_ne_true]
              split
              · rename_i indented
                rw [Option.some.injEq, eq_comm]
                exact (and_iff_right indented).symm
              · rename_i other
                constructor
                · intro found
                  cases found
                · exact fun found => absurd found.1 other

/-! ## The first section -/

theorem sectionAt_cons_iff {header : String} {line : Line} {rest : List Line} {value : Line} :
    SectionAt header (line :: rest) value ↔
      isHeader header line = true ∧ sectionValue? rest = some value := by
  rw [isHeader_iff, sectionValue?_eq_some_iff]
  constructor
  · rintro ⟨first, others, same, named, opens⟩
    cases same
    exact ⟨named, opens⟩
  · exact fun ⟨named, opens⟩ => ⟨line, rest, rfl, named, opens⟩

theorem scalar_firstOr (header : String) (lines : List Line) :
    FirstOr (SectionAt header) [] lines (scalar header lines) := by
  induction lines with
  | nil =>
      refine firstOr_nil ?_
      rintro value ⟨line, rest, same, _⟩
      cases same
  | cons line rest ih =>
      unfold scalar
      cases named : isHeader header line with
      | false =>
          rw [if_neg Bool.false_ne_true]
          exact ih.cons fun value => by simp [sectionAt_cons_iff, named]
      | true =>
          rw [if_pos rfl]
          cases found : sectionValue? rest with
          | none => exact ih.cons fun value => by simp [sectionAt_cons_iff, found]
          | some value => exact firstOr_of_reads (sectionAt_cons_iff.mpr ⟨named, found⟩)

/-- **The value of a section comes from the first header that gives one.**  The name, the
synopsis, the usage and the description are each the first line behind such a header that is not
made of gaps, without the blanks around it, and empty when no header gives a value.  So a header
borrows nothing from what stands behind an unindented line. -/
theorem sectionValues_first (text : String) :
    FirstOr (SectionAt "SYNOPSIS") [] (linesOf text) (extractSynopsis text).toList ∧
      ∀ fields, extract text = .ok fields →
        FirstOr (SectionAt "NAME") [] (linesOf text) fields.name.toList ∧
        FirstOr (SectionAt "SYNOPSIS") [] (linesOf text) fields.synopsis.toList ∧
        FirstOr (SectionAt "SYNTAX") [] (linesOf text) fields.usage.toList ∧
        FirstOr (SectionAt "DESCRIPTION") [] (linesOf text) fields.description.toList := by
  have value (header : String) : FirstOr (SectionAt header) [] (linesOf text)
      (String.ofList (scalar header (linesOf text))).toList := by
    rw [String.toList_ofList]
    exact scalar_firstOr header (linesOf text)
  refine ⟨value "SYNOPSIS", fun fields read => ?_⟩
  obtain ⟨examples, _, rfl⟩ := exists_of_extract_eq_ok read
  exact ⟨value "NAME", value "SYNOPSIS", value "SYNTAX", value "DESCRIPTION"⟩

/-- The first name is not indented, one synopsis is indented by another blank and the other one
goes on with one, the usage is followed by a header, and the description by nothing. -/
def borrowing : String :=
  "NAME\nGet-X\nSYNOPSIS\n\n \n\u2003Ok\nSYNTAX\nNAME \t\n\t\n \tGet-A x\u00a0 \nSYNOPSIS\n" ++
    "  \u2003 no\nDESCRIPTION"

theorem sectionValues_borrowing :
    extract borrowing = .ok { name := "Get-A x" } ∧
      FirstOr (SectionAt "NAME") [] (linesOf borrowing) "Get-A x".toList ∧
      FirstOr (SectionAt "SYNOPSIS") [] (linesOf borrowing) [] ∧
      FirstOr (SectionAt "SYNTAX") [] (linesOf borrowing) [] ∧
      FirstOr (SectionAt "DESCRIPTION") [] (linesOf borrowing) [] := by
  have read : extract borrowing = .ok { name := "Get-A x" } := rfl
  exact ⟨read, (sectionValues_first borrowing).2 _ read⟩

end CommandDocs.Help

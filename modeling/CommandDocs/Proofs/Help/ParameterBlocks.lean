import CommandDocs.Proofs.Help.Forms
import CommandDocs.Proofs.Help.Places
import CommandDocs.Proofs.Help.Reading

/-!
# Where the parameters come from

The parameters section begins behind the first header that is ended by a line feed and goes up to
the first unindented line; the line about common parameters cuts it short.  Every anchor in it
gives one parameter, and what is said of the parameter stands in its block, the lines up to the
next anchor.
-/

namespace CommandDocs.Help

open Layout

/-! ## The section -/

/-- A header with at least one line behind it opens the lines, and these are the lines of its
section. -/
def ParametersAt (lines inside : List Line) : Prop :=
  ∃ header rest indented, lines = header :: rest ∧ rest ≠ [] ∧
    IsHeaderLine "PARAMETERS" header ∧
    UpTo (Starts fun line => isUnindented line = true) rest indented ∧
    UpTo (Starts fun line => ∃ after, IsLabelled "<CommonParameters>" line after) indented inside

theorem ParametersAt.isHeader {line : Line} {rest inside : List Line}
    (opens : ParametersAt (line :: rest) inside) : isHeader "PARAMETERS" line = true := by
  obtain ⟨header, others, indented, same, _, named, _⟩ := opens
  cases same
  exact isHeader_iff.mpr named

theorem parametersAt_of_isHeader {line : Line} {rest : List Line}
    (named : isHeader "PARAMETERS" line = true) (more : rest ≠ []) :
    ParametersAt (line :: rest) (parametersSection (line :: rest)) := by
  rw [parametersSection_cons_header named]
  refine ⟨line, rest, _, rfl, more, isHeader_iff.mp named, upTo_takeWhile (fun l => ?_) rest,
    upTo_takeWhile (fun l => ?_) _⟩
  · simp
  · rw [← isCommonParameters_iff]
    simp

theorem parametersSection_firstOr (lines : List Line) :
    FirstOr ParametersAt [] lines (parametersSection lines) := by
  induction lines with
  | nil =>
      refine firstOr_nil ?_
      rintro inside ⟨header, rest, indented, same, _⟩
      cases same
  | cons line rest ih =>
      by_cases opens : isHeader "PARAMETERS" line = true ∧ rest ≠ []
      · exact firstOr_of_reads (parametersAt_of_isHeader opens.1 opens.2)
      · have vacant (inside : List Line) : ¬ParametersAt (line :: rest) inside := by
          intro opened
          refine opens ⟨opened.isHeader, ?_⟩
          obtain ⟨header, others, indented, same, more, _⟩ := opened
          cases same
          exact more
        have later : parametersSection (line :: rest) = parametersSection rest := by
          cases rest with
          | nil => rfl
          | cons next others =>
              refine parametersSection_cons_of_not_header (Bool.eq_false_iff.mpr fun named => ?_) _
              exact opens ⟨named, List.cons_ne_nil _ _⟩
        rw [later]
        exact ih.cons vacant

/-! ## One block -/

/-- A line with the label of a field opens the lines, and this is what stands behind the label. -/
def FieldAt (label : String) (lines : List Line) (value : Line) : Prop :=
  ∃ line rest after, lines = line :: rest ∧ IsLabelled label line after ∧
    value = Text.trimGaps after

/-- A line that is not blank opens the lines, and this is its text, or nothing when the text
starts with the label of a field. -/
def DescriptionAt (lines : List Line) (value : Line) : Prop :=
  ∃ line rest, lines = line :: rest ∧ Text.trim line ≠ [] ∧
    ((∃ label ∈ fieldLabels, label.toList <+: Text.trim line) ∧ value = [] ∨
      (∀ label ∈ fieldLabels, ¬label.toList <+: Text.trim line) ∧ value = Text.trim line)

/-- A parameter as its anchor and the lines of its block give it. -/
structure Parameter.IsReadFrom (p : Parameter) (anchor : Line) (block : List Line) : Prop where
  anchor : IsParameterAnchor anchor p.name.toList p.typeHint.toList
  description : FirstOr DescriptionAt [] block p.description.toList
  required : FirstOr (FieldAt "Required?") [] block p.required.toList
  position : FirstOr (FieldAt "Position?") [] block p.position.toList
  defaultValue : FirstOr (FieldAt "Default value") [] block p.defaultValue.toList
  pipelineInput : FirstOr (FieldAt "Accept pipeline input?") [] block p.pipelineInput.toList
  wildcards : FirstOr (FieldAt "Accept wildcard characters?") [] block p.wildcards.toList

theorem fieldAt_cons_iff {label : String} (solid : isUnindented label.toList = true) {line : Line}
    {rest : List Line} {value : Line} :
    FieldAt label (line :: rest) value ↔
      ∃ after, afterLabel? label line = some after ∧ value = Text.trimGaps after := by
  simp only [afterLabel?_eq_some_iff solid]
  constructor
  · rintro ⟨first, others, after, same, labelled, rfl⟩
    cases same
    exact ⟨after, labelled, rfl⟩
  · rintro ⟨after, labelled, rfl⟩
    exact ⟨line, rest, after, rfl, labelled, rfl⟩

theorem blockField_firstOr {label : String} (solid : isUnindented label.toList = true)
    (block : List Line) : FirstOr (FieldAt label) [] block (blockField label block) := by
  induction block with
  | nil =>
      refine firstOr_nil ?_
      rintro value ⟨line, rest, after, same, _⟩
      cases same
  | cons line rest ih =>
      unfold blockField
      rw [List.findSome?_cons]
      cases found : afterLabel? label line with
      | none => exact ih.cons fun value => by simp [fieldAt_cons_iff solid, found]
      | some after => exact firstOr_of_reads ((fieldAt_cons_iff solid).mpr ⟨after, found, rfl⟩)

theorem startsWithLabel_iff {text : Line} :
    startsWithLabel text = true ↔ ∃ label ∈ fieldLabels, label.toList <+: text := by
  simp [startsWithLabel]

theorem blockDescription_firstOr (block : List Line) :
    FirstOr DescriptionAt [] block (blockDescription block) := by
  induction block with
  | nil =>
      refine firstOr_nil ?_
      rintro value ⟨line, rest, same, _⟩
      cases same
  | cons line rest ih =>
      unfold blockDescription
      by_cases blank : Text.trim line = []
      · have vacant (value : Line) : ¬DescriptionAt (line :: rest) value := by
          rintro ⟨first, others, same, solid, _⟩
          cases same
          exact solid blank
        simpa [blank] using ih.cons vacant
      · rw [if_neg (by simpa using blank)]
        refine firstOr_of_reads ⟨line, rest, rfl, blank, ?_⟩
        cases labelled : startsWithLabel (Text.trim line) with
        | true => exact Or.inl ⟨startsWithLabel_iff.mp labelled, rfl⟩
        | false =>
            refine Or.inr ⟨fun label member start => ?_, rfl⟩
            rw [startsWithLabel_iff.mpr ⟨label, member, start⟩] at labelled
            cases labelled

theorem isReadFrom_readParameter {line name type : Line} (block : List Line)
    (found : anchor? line = some (name, type)) :
    (readParameter name type block).IsReadFrom line block := by
  have anchor : IsParameterAnchor line (String.ofList name).toList (String.ofList type).toList := by
    rw [String.toList_ofList, String.toList_ofList]
    exact isParameterAnchor_of_anchor? found
  have description : FirstOr DescriptionAt [] block
      (String.ofList (blockDescription block)).toList := by
    rw [String.toList_ofList]
    exact blockDescription_firstOr block
  have field {label : String} (solid : isUnindented label.toList = true) :
      FirstOr (FieldAt label) [] block (String.ofList (blockField label block)).toList := by
    rw [String.toList_ofList]
    exact blockField_firstOr solid block
  exact ⟨anchor, description, field (by decide), field (by decide), field (by decide),
    field (by decide), field (by decide)⟩

/-! ## All blocks -/

def IsAnchor (line : Line) : Prop :=
  ∃ name type, IsParameterAnchor line name type

/-- An anchor opens the lines, and this is the parameter that it gives with its block, which goes
up to the next anchor. -/
def ParameterAt (lines : List Line) (p : Parameter) : Prop :=
  ∃ anchor rest block, lines = anchor :: rest ∧ UpTo (Starts IsAnchor) rest block ∧
    p.IsReadFrom anchor block

theorem isSome_anchor?_iff {line : Line} : (anchor? line).isSome = true ↔ IsAnchor line := by
  simp only [IsAnchor, ← anchor?_eq_some_iff, Option.isSome_iff_exists, Prod.exists]

theorem blockLines_upTo (lines : List Line) : UpTo (Starts IsAnchor) lines (blockLines lines) :=
  upTo_takeWhile (fun line => by rw [← isSome_anchor?_iff]; simp) lines

theorem readParameters_inOrder (lines : List Line) :
    InOrder (Starts IsAnchor) ParameterAt lines (readParameters lines) := by
  induction lines with
  | nil =>
      refine inOrder_nil ?_
      rintro ⟨line, first, _⟩
      cases first
  | cons line rest ih =>
      unfold readParameters
      cases found : anchor? line with
      | none =>
          refine ih.cons fun starts => ?_
          rw [starts_cons, ← isSome_anchor?_iff, found] at starts
          cases starts
      | some pair =>
          have marked : Starts IsAnchor (line :: rest) := by
            rw [starts_cons, ← isSome_anchor?_iff, found]
            rfl
          exact ih.cons_of_marks marked
            ⟨line, rest, blockLines rest, rfl, blockLines_upTo rest,
              isReadFrom_readParameter _ found⟩

/-- **The parameters are the anchors of the parameters section, each with its own block.**  There
is one parameter for each anchor, in the order of the anchors.  Its name and type stand on the
anchor; its fields and its description come from the lines up to the next anchor, and from no
other. -/
theorem parameters_inOrder {text : String} {fields : Fields} (read : extract text = .ok fields) :
    ∃ inside, FirstOr ParametersAt [] (linesOf text) inside ∧
      InOrder (Starts IsAnchor) ParameterAt inside fields.parameters := by
  obtain ⟨examples, _, rfl⟩ := exists_of_extract_eq_ok read
  exact ⟨parametersSection (linesOf text), parametersSection_firstOr _, readParameters_inOrder _⟩

/-- A parameter whose block begins with a field and repeats it, one without a block, one with a
line that is indented too far for an anchor, and two anchors outside the section. -/
def crowded : String :=
  "PARAMETERS\t\n    -Name <String> \t\n  Required?  true\n\tRequired? false\n\u2003\n" ++
    "  Some text\n -Force\n    -X-é_1-[y]\n     -Far\n Position? 1\n\t <CommonParameters>x\n" ++
    " -Gone\nINPUTS\n -Out"

def crowdedParameters : List Parameter := [
    { name := "Name", typeHint := "<String>", required := "true" },
    { name := "Force" },
    { name := "X-é_1-", typeHint := "[y]", description := "-Far", position := "1" }
  ]

theorem parameters_crowded :
    extract crowded = .ok { parameters := crowdedParameters } ∧
      ∃ inside, FirstOr ParametersAt [] (linesOf crowded) inside ∧
        InOrder (Starts IsAnchor) ParameterAt inside crowdedParameters := by
  have read : extract crowded = .ok { parameters := crowdedParameters } := by decide +kernel
  exact ⟨read, parameters_inOrder read⟩

end CommandDocs.Help

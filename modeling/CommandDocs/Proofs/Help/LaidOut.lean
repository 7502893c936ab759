import CommandDocs.Proofs.Help.Blocks
import CommandDocs.Proofs.Help.Examples
import CommandDocs.Proofs.Help.Reading

/-!
# Reading a laid-out document

Reading the lines of a laid-out document gives back the values it was laid out from.
-/

namespace CommandDocs.Help

open Layout

theorem linesOf_joinFeeds {lines : List Line} (nonempty : lines ≠ [])
    (single : ∀ line ∈ lines, IsSingle line) :
    linesOf (String.ofList (Text.joinFeeds lines)) = lines := by
  have unbroken : '\r' ∉ Text.joinFeeds lines := by
    intro member
    rcases Text.mem_joinWith member with same | ⟨line, hline, hr⟩
    · exact absurd same (by decide)
    · exact (single line hline).2 hr
  rw [linesOf, String.toList_ofList, Text.unifyBreaks_of_not_mem unbroken]
  exact Text.splitAt_joinWith nonempty fun line member => (single line member).1

namespace Layout

theorem isSingle_of_isGapLine {line : Line} (gap : isGapLine line = true) : IsSingle line :=
  ⟨fun member => absurd (List.all_eq_true.mp gap _ member) (by decide),
    fun member => absurd (List.all_eq_true.mp gap _ member) (by decide)⟩

theorem IsSingle.append {first second : Line} (hfirst : IsSingle first)
    (hsecond : IsSingle second) : IsSingle (first ++ second) := by
  constructor
  · simpa using ⟨hfirst.1, hsecond.1⟩
  · simpa using ⟨hfirst.2, hsecond.2⟩

/-- A line that can stand in front of the examples: it is single and opens no example. -/
structure IsPlain (line : Line) : Prop where
  single : IsSingle line
  free : exampleDigits? line = none

instance (line : Line) : Decidable (IsPlain line) :=
  decidable_of_iff (IsSingle line ∧ exampleDigits? line = none)
    ⟨fun ⟨a, b⟩ => ⟨a, b⟩, fun ⟨a, b⟩ => ⟨a, b⟩⟩

theorem isPlain_of_isGapLine {line : Line} (gap : isGapLine line = true) : IsPlain line :=
  ⟨isSingle_of_isGapLine gap, exampleDigits?_of_isGapLine gap⟩

theorem IsPlain.gaps_append {gaps text : Line} (gap : isGapLine gaps = true)
    (plain : IsPlain text) : IsPlain (gaps ++ text) :=
  ⟨(isSingle_of_isGapLine gap).append plain.single,
    (exampleDigits?_gaps_append gap text).trans plain.free⟩

theorem Paragraph.isPlain_line (p : Paragraph) : IsPlain p.line :=
  IsPlain.gaps_append p.isIndent.2 ⟨p.isParagraph.single, p.isParagraph.free⟩

theorem Labelled.isPlain_line {label : String} (known : label ∈ fieldLabels)
    (field : Labelled) : IsPlain (field.line label) := by
  refine IsPlain.gaps_append (isIndent_replicate 7).2 ⟨?_, ?_⟩
  · have single : ∀ label ∈ fieldLabels, IsSingle label.toList := by decide
    exact (single label known).append
      ((isSingle_of_isGapLine field.space_gaps).append field.value_single)
  · simp only [fieldLabels, List.mem_cons, List.not_mem_nil, or_false] at known
    rcases known with rfl | rfl | rfl | rfl | rfl <;> rfl

theorem Block.isPlain_of_mem_lines (b : Block) {line : Line} (member : line ∈ b.lines) :
    IsPlain line := by
  rcases b.mem_lines member with rfl | rfl | ⟨label, known, field, rfl⟩
  · exact IsPlain.gaps_append (isIndent_replicate 3).2 ⟨b.single, b.free⟩
  · exact IsPlain.gaps_append (isIndent_replicate 7).2
      ⟨b.isDescription.single, b.isDescription.free⟩
  · exact field.isPlain_line known

theorem Common.isPlain_of_mem_lines (common : Common) {line : Line}
    (member : line ∈ common.lines) : IsPlain line := by
  simp only [Common.lines, List.mem_cons, List.not_mem_nil, or_false] at member
  rcases member with rfl | rfl
  · exact IsPlain.gaps_append common.isIndent.2 (by decide)
  · exact common.text.isPlain_line

theorem Shown.isSingle_of_mem_lines (e : Shown) {line : Line} (member : line ∈ e.lines) :
    IsSingle line := by
  have dashes (n : Nat) : IsSingle (List.replicate n '-') := by
    constructor <;> simp [List.mem_replicate]
  have digits : IsSingle e.digits := by
    constructor <;> intro inside <;>
      exact absurd (List.all_eq_true.mp e.digits_decimal _ inside) (by decide)
  rw [lines_eq] at member
  rcases List.mem_cons.mp member with rfl | inner
  · have rule : IsSingle ('-' :: List.replicate e.left '-') := dashes (e.left + 1)
    have space : IsSingle [' '] := by decide
    have tail : IsSingle (' ' :: '-' :: List.replicate e.right '-') :=
      space.append (dashes (e.right + 1))
    have word : IsSingle " EXAMPLE ".toList := by decide
    exact (isSingle_of_isGapLine e.isIndent.2).append
      (rule.append (word.append (digits.append tail)))
  · rcases List.mem_append.mp inner with front | back
    · rcases List.mem_cons.mp front with rfl | inBody
      · exact isSingle_of_isGapLine e.opening_gaps
      · exact (e.body_lines line inBody).single
    · exact isSingle_of_isGapLine (List.all_eq_true.mp e.closing_gaps line back)

end Layout

namespace Document

variable (doc : Document)

theorem isPlain_of_mem_scalarLines {line : Line} (member : line ∈ doc.scalarLines) :
    IsPlain line := by
  simp only [scalarLines, List.mem_cons, List.not_mem_nil, or_false] at member
  rcases member with rfl | rfl | rfl | rfl | rfl | rfl | rfl | rfl
  · decide
  · exact doc.name.isPlain_line
  · decide
  · exact doc.synopsis.isPlain_line
  · decide
  · exact doc.usage.isPlain_line
  · decide
  · exact doc.description.isPlain_line

theorem isPlain_of_mem_frontLines {line : Line} (member : line ∈ doc.frontLines) :
    IsPlain line := by
  simp only [frontLines, List.mem_append, List.mem_cons] at member
  rcases member with scalars | rfl | blocks | common | headings
  · exact doc.isPlain_of_mem_scalarLines scalars
  · decide
  · obtain ⟨b, _, inside⟩ := List.mem_flatMap.mp blocks
    exact b.isPlain_of_mem_lines inside
  · unfold commonLines at common
    cases shape : doc.common with
    | none => rw [shape] at common; cases common
    | some closing => rw [shape] at common; exact closing.isPlain_of_mem_lines common
  · have heading := doc.headings_isHeading line headings
    exact ⟨heading.single, heading.free⟩

/-- Every line in front of the examples is a line of gaps or one that the document prints. -/
theorem isPlain_of_mem_front {front : List Line} (solid : solidLines front = doc.frontLines)
    {line : Line} (member : line ∈ front) : IsPlain line := by
  cases gap : isGapLine line with
  | true => exact isPlain_of_isGapLine gap
  | false =>
      refine doc.isPlain_of_mem_frontLines ?_
      rw [← solid]
      exact mem_solidLines.mpr ⟨member, gap⟩

theorem isSingle_of_laidOut {lines : List Line} (laid : doc.LaidOut lines) :
    ∀ line ∈ lines, IsSingle line := by
  obtain ⟨front, after, solid, gaps, rfl⟩ := laid
  intro line member
  rcases List.mem_append.mp member with inFront | member
  · exact (doc.isPlain_of_mem_front solid inFront).single
  · rcases List.mem_append.mp member with inShown | member
    · obtain ⟨e, _, inside⟩ := List.mem_flatMap.mp inShown
      exact e.isSingle_of_mem_lines inside
    · rcases List.mem_cons.mp member with rfl | inAfter
      · exact doc.last_isHeading.single
      · exact isSingle_of_isGapLine (List.all_eq_true.mp gaps line inAfter)

theorem readExamples_of_laidOut {lines : List Line} (laid : doc.LaidOut lines) :
    readExamples lines = .ok (doc.shown.map Shown.toExample) := by
  obtain ⟨front, after, solid, gaps, rfl⟩ := laid
  have ending : readExamples (doc.last :: after) = .ok [] := by
    rw [readExamples_cons_of_not_anchor doc.last_isHeading.free, ← List.append_nil after,
      readExamples_append_of_not_anchor fun line member =>
        exampleDigits?_of_isGapLine (List.all_eq_true.mp gaps line member)]
    rfl
  rw [readExamples_append_of_not_anchor fun line member =>
    (doc.isPlain_of_mem_front solid member).free]
  exact readExamples_shown doc.shown (List.cons_ne_nil _ _) ending

theorem exists_solidLines_of_laidOut {lines : List Line} (laid : doc.LaidOut lines) :
    ∃ rest, solidLines lines = doc.frontLines ++ rest := by
  obtain ⟨front, after, solid, gaps, rfl⟩ := laid
  exact ⟨_, by rw [solidLines_append, solid]⟩

theorem scalars_of_laidOut {lines : List Line} (laid : doc.LaidOut lines) :
    scalar "NAME" lines = doc.name.text ∧ scalar "SYNOPSIS" lines = doc.synopsis.text ∧
      scalar "SYNTAX" lines = doc.usage.text ∧
        scalar "DESCRIPTION" lines = doc.description.text := by
  obtain ⟨rest, front⟩ := doc.exists_solidLines_of_laidOut laid
  rw [frontLines, List.append_assoc] at front
  rw [← scalar_solidLines (by decide) lines, ← scalar_solidLines (by decide) lines,
    ← scalar_solidLines (by decide) lines, ← scalar_solidLines (by decide) lines, front]
  exact ⟨doc.scalar_name _, doc.scalar_synopsis _, doc.scalar_usage _, doc.scalar_description _⟩

theorem readParameters_of_laidOut {lines : List Line} (laid : doc.LaidOut lines) :
    readParameters (parametersSection lines) = doc.blocks.map Block.parameter := by
  obtain ⟨rest, front⟩ := doc.exists_solidLines_of_laidOut laid
  rw [← readParameters_solidLines, ← parametersSection_solidLines, front,
    parametersSection_frontLines, readParameters_blocks]

end Document

/-- **Reading a laid-out document gives back the values it was laid out from.** -/
theorem extract_of_laidOut (doc : Document) {lines : List Line} (laid : doc.LaidOut lines) :
    extract (String.ofList (Text.joinFeeds lines)) = .ok doc.fields := by
  have nonempty : lines ≠ [] := by
    obtain ⟨front, after, _, _, rfl⟩ := laid
    simp
  obtain ⟨name, synopsis, usage, description⟩ := doc.scalars_of_laidOut laid
  rw [extract_eq_map, linesOf_joinFeeds nonempty (doc.isSingle_of_laidOut laid),
    doc.readExamples_of_laidOut laid, Except.map, fieldsOf, name, synopsis, usage, description,
    doc.readParameters_of_laidOut laid]
  rfl

/-- A document with two parameters, the common parameters and two examples.  Some of its texts
look like anchors and headers of other sections. -/
def sample : Document where
  name := { indent := "    ".toList, text := "Get-Foo".toList }
  synopsis := { indent := "    ".toList, text := "-Name <String>".toList }
  usage := { indent := "\t".toList, text := "Get-Foo [-Name] <String> [-Force]".toList }
  description := { indent := " ".toList, text := "PARAMETERS".toList }
  blocks := [
    {
      name := "Name".toList
      type := "<String>".toList
      description := "-Force".toList
      required := { space := "    ".toList, value := "true".toList }
      position := { space := "    ".toList, value := "1".toList }
      defaultValue := {}
      pipelineInput := { space := " ".toList, value := "Position? 3".toList }
      wildcards := { space := " ".toList, value := "false".toList }
    },
    {
      name := "Force".toList
      description := "NAME".toList
      required := { space := " ".toList, value := "false".toList }
      position := { space := " ".toList, value := "named".toList }
      defaultValue := { space := "  ".toList }
      pipelineInput := { space := " ".toList, value := "false".toList }
      wildcards := { space := " ".toList, value := "false".toList }
    }
  ]
  common := some {
    indent := "    ".toList
    text := { indent := "        ".toList, text := "-Verbose and others".toList }
  }
  headings := ["INPUTS".toList, "OUTPUTS".toList]
  shown := [
    {
      indent := "    ".toList
      left := 2
      digits := "7".toList
      right := 2
      body := ["    PS> Get-Foo".toList, [], [], "    NAME".toList]
      closing := [[], [], []]
    },
    {
      indent := " ".toList
      left := 0
      digits := "02".toList
      right := 0
      body := []
      closing := [[], [], [], []]
    }
  ]
  last := "RELATED LINKS".toList

def sampleFront : List Line :=
  [
    "", "NAME", "    Get-Foo", "", "SYNOPSIS", "  ", "    -Name <String>", "SYNTAX",
    "\tGet-Foo [-Name] <String> [-Force]", "DESCRIPTION", " PARAMETERS", "", "PARAMETERS",
    "    -Name <String>", "        -Force", "",
    "        Required?    true", "        Position?    1", "        Default value",
    "        Accept pipeline input? Position? 3", "        Accept wildcard characters? false", "",
    "    -Force", "        NAME", "",
    "        Required? false", "        Position? named", "        Default value  ",
    "        Accept pipeline input? false", "        Accept wildcard characters? false", "",
    "    <CommonParameters>", "        -Verbose and others", "", "INPUTS", "OUTPUTS", ""
  ].map String.toList

def sampleLines : List Line :=
  sampleFront ++
    [
      "    --- EXAMPLE 7 ---", "", "    PS> Get-Foo", "", "", "    NAME", "", "", "",
      " - EXAMPLE 02 -", "", "", "", "", "", "RELATED LINKS", ""
    ].map String.toList

theorem extract_sample :
    sample.LaidOut sampleLines ∧
      extract (String.ofList (Text.joinFeeds sampleLines)) =
        .ok {
          name := "Get-Foo"
          synopsis := "-Name <String>"
          usage := "Get-Foo [-Name] <String> [-Force]"
          description := "PARAMETERS"
          parameters := [
            ⟨"Name", "<String>", "-Force", "true", "1", "", "Position? 3", "false"⟩,
            ⟨"Force", "", "NAME", "false", "named", "", "false", "false"⟩
          ]
          examples := [⟨7, "PS> Get-Foo\n\n\n    NAME"⟩, ⟨2, ""⟩]
        } := by
  have laid : sample.LaidOut sampleLines := ⟨sampleFront, [[]], by decide, by decide, by decide⟩
  exact ⟨laid, extract_of_laidOut sample laid⟩

end CommandDocs.Help

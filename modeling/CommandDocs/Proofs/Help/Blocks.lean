import CommandDocs.Proofs.Help.Forms

/-!
# Parameters of a laid-out document

Every line of a block is found by its own reader and passed over by all others, so that the
parameters section gives back its blocks one by one.
-/

namespace CommandDocs.Help

open Layout

namespace Layout

theorem afterStart?_append_of_apart {start other : Line}
    (notPrefix : Text.afterStart? start other = none)
    (notLonger : Text.afterStart? other start = none) (rest : Line) :
    Text.afterStart? start (other ++ rest) = none := by
  induction start generalizing other with
  | nil => cases notPrefix
  | cons a start ih =>
      cases other with
      | nil => cases notLonger
      | cons c other =>
          by_cases same : a = c
          · subst same
            simp only [Text.afterStart?, beq_self_eq_true, if_true] at notPrefix notLonger
            simpa [Text.afterStart?] using ih notPrefix notLonger
          · simp [Text.afterStart?, same]

theorem isUnindented_of_mem_fieldLabels {label : String} (member : label ∈ fieldLabels) :
    isUnindented label.toList = true := by
  have all : ∀ label ∈ fieldLabels, isUnindented label.toList = true := by decide
  exact all label member

namespace Labelled

variable (field : Labelled)

theorem afterLabel?_line {label : String} (h : isUnindented label.toList = true) :
    afterLabel? label (field.line label) = some (field.space ++ field.value) :=
  (afterLabel?_eq_some_iff h).mpr ⟨_, (isIndent_replicate 7).2, rfl⟩

/-- The line of a field holds no label but its own. -/
theorem afterLabel?_line_of_apart {label other : String} (h : isUnindented other.toList = true)
    (notPrefix : Text.afterStart? label.toList other.toList = none)
    (notLonger : Text.afterStart? other.toList label.toList = none) :
    afterLabel? label (field.line other) = none := by
  rw [Labelled.line, afterLabel?_gaps_append label (isIndent_replicate 7).2, afterLabel?,
    dropWhile_of_isUnindented (isUnindented_append h _)]
  exact afterStart?_append_of_apart notPrefix notLonger _

theorem trimGaps_value : Text.trimGaps (field.space ++ field.value) = field.value :=
  (Text.trimBoth_append_of_all_left field.space_gaps).trans field.value_trimmed

end Labelled

/-- A text that is indented by more than four spaces is no anchor. -/
theorem anchor?_replicate_append {text : Line} (h : isUnindented text = true) :
    anchor? (List.replicate 8 ' ' ++ text) = none := by
  have inside : (List.replicate 8 ' ' ++ text).dropWhile Text.isGap = text := by
    rw [dropWhile_gaps_append (isIndent_replicate 7).2, dropWhile_of_isUnindented h]
  have width : 8 ≤ ((List.replicate 8 ' ' ++ text).takeWhile Text.isGap).length := by
    rw [List.takeWhile_append_of_pos (List.all_eq_true.mp (isIndent_replicate 7).2)]
    simp
  have wide : decide (((List.replicate 8 ' ' ++ text).takeWhile Text.isGap).length ≤ 4) = false :=
    decide_eq_false (by omega)
  unfold anchor?
  rw [inside]
  split
  · rw [wide]
    rfl
  · rfl

namespace Block

variable (b : Block)

theorem exists_name_eq_cons : ∃ c rest, b.name = c :: rest ∧ c.isAlpha = true ∧
    ∀ d ∈ rest, isNameChar d = true := by
  have named := b.name_isName
  cases shape : b.name with
  | nil =>
      rw [shape] at named
      cases named
  | cons c rest =>
      rw [shape, isName, Bool.and_eq_true] at named
      exact ⟨c, rest, rfl, named.1, List.all_eq_true.mp named.2⟩

theorem anchor?_anchor : anchor? b.anchor = some (b.name, b.type) := by
  obtain ⟨c, rest, shape, letter, others⟩ := b.exists_name_eq_cons
  have opens : ∃ c ∈ b.name.head?, c.isAlpha = true := ⟨c, by rw [shape]; rfl, letter⟩
  have names : ∀ c ∈ b.name.tail, isNameChar c = true := by rwa [shape]
  have ends : ∀ c ∈ (if b.type = [] then [] else ' ' :: b.type).head?, isNameChar c = false := by
    split
    · rintro c ⟨⟩
    · rintro c ⟨⟩
      decide
  have type : b.type = Text.trimGaps (if b.type = [] then [] else ' ' :: b.type) := by
    split
    · rename_i untyped
      rw [untyped]
      rfl
    · exact ((Text.trimBoth_append_of_all_left (s := [' ']) (by decide)).trans b.type_trimmed).symm
  exact anchor?_eq_some_iff.mpr
    ⟨opens, _, _, (isIndent_replicate 3).2, by simp, rfl, names, ends, type⟩

theorem mem_lines {line : Line} (member : line ∈ b.lines) :
    line = b.anchor ∨ line = List.replicate 8 ' ' ++ b.description ∨
      ∃ label ∈ fieldLabels, ∃ field : Labelled, line = field.line label := by
  simp only [lines, inner, List.mem_cons, List.not_mem_nil, or_false] at member
  rcases member with h | h | h | h | h | h | h
  · exact Or.inl h
  · exact Or.inr (Or.inl h)
  · exact Or.inr (Or.inr ⟨_, by decide, _, h⟩)
  · exact Or.inr (Or.inr ⟨_, by decide, _, h⟩)
  · exact Or.inr (Or.inr ⟨_, by decide, _, h⟩)
  · exact Or.inr (Or.inr ⟨_, by decide, _, h⟩)
  · exact Or.inr (Or.inr ⟨_, by decide, _, h⟩)

theorem indented_of_mem_lines {line : Line} (member : line ∈ b.lines) :
    ∃ indent text, IsIndent indent ∧ line = indent ++ text := by
  rcases b.mem_lines member with rfl | rfl | ⟨label, _, field, rfl⟩
  · exact ⟨_, _, isIndent_replicate 3, rfl⟩
  · exact ⟨_, _, isIndent_replicate 7, rfl⟩
  · exact ⟨_, _, isIndent_replicate 7, rfl⟩

theorem isCommonParameters_of_mem_lines {line : Line} (member : line ∈ b.lines) :
    isCommonParameters line = false := by
  rcases b.mem_lines member with rfl | rfl | ⟨label, known, field, rfl⟩
  · rw [anchor, isCommonParameters_gaps_append (isIndent_replicate 3).2]
    rfl
  · rw [isCommonParameters_gaps_append (isIndent_replicate 7).2]
    exact b.isDescription.uncommon
  · have apart : ∀ label ∈ fieldLabels,
        Text.afterStart? "<CommonParameters>".toList label.toList = none ∧
          Text.afterStart? label.toList "<CommonParameters>".toList = none := by decide
    rw [isCommonParameters, field.afterLabel?_line_of_apart
      (isUnindented_of_mem_fieldLabels known) (apart label known).1 (apart label known).2]
    rfl

theorem anchor?_of_mem_inner {line : Line} (member : line ∈ b.inner) : anchor? line = none := by
  simp only [inner, List.mem_cons, List.not_mem_nil, or_false] at member
  rcases member with rfl | rfl | rfl | rfl | rfl | rfl
  · exact anchor?_replicate_append b.isDescription.isUnindented
  all_goals exact anchor?_replicate_append (isUnindented_append (by decide) _)

theorem afterLabel?_description {label : String} (known : label ∈ fieldLabels) :
    afterLabel? label (List.replicate 8 ' ' ++ b.description) = none := by
  rw [afterLabel?_gaps_append label (isIndent_replicate 7).2, afterLabel?,
    dropWhile_of_isUnindented b.isDescription.isUnindented]
  cases start : Text.afterStart? label.toList b.description with
  | none => rfl
  | some rest =>
      have labelled : startsWithLabel b.description = true := by
        refine List.any_eq_true.mpr ⟨label, known, ?_⟩
        rw [Text.afterStart?_eq_some_iff.mp start]
        exact List.isPrefixOf_iff_prefix.mpr (List.prefix_append _ _)
      rw [b.isDescription.unlabelled] at labelled
      cases labelled

theorem blockDescription_inner : blockDescription b.inner = b.description := by
  have blank : (List.replicate 8 ' ').all Text.isBlank = true := by decide
  have text : Text.trim (List.replicate 8 ' ' ++ b.description) = b.description :=
    (Text.trimBoth_append_of_all_left blank).trans b.isDescription.trimmed
  have solid : b.description.isEmpty = false := by simpa using b.isDescription.ne_nil
  unfold inner blockDescription
  simp only [text, solid, b.isDescription.unlabelled]
  rfl

/-- Whether two labels are apart: neither of them is the start of the other. -/
def apart (label other : String) : Bool :=
  (Text.afterStart? label.toList other.toList).isNone &&
    (Text.afterStart? other.toList label.toList).isNone

theorem blockField_cons_description {label : String} (known : label ∈ fieldLabels)
    (rest : List Line) :
    blockField label ((List.replicate 8 ' ' ++ b.description) :: rest) = blockField label rest := by
  rw [blockField, List.findSome?_cons, b.afterLabel?_description known, blockField]

end Block

theorem blockField_cons_line {label : String} (known : label ∈ fieldLabels) (field : Labelled)
    (rest : List Line) : blockField label (field.line label :: rest) = field.value := by
  rw [blockField, List.findSome?_cons,
    field.afterLabel?_line (isUnindented_of_mem_fieldLabels known)]
  exact field.trimGaps_value

theorem blockField_cons_other {label other : String} (known : other ∈ fieldLabels)
    (distinct : Block.apart label other = true) (field : Labelled) (rest : List Line) :
    blockField label (field.line other :: rest) = blockField label rest := by
  simp only [Block.apart, Bool.and_eq_true, Option.isNone_iff_eq_none] at distinct
  rw [blockField, List.findSome?_cons, field.afterLabel?_line_of_apart
    (isUnindented_of_mem_fieldLabels known) distinct.1 distinct.2, blockField]

namespace Block

variable (b : Block)

theorem readParameter_inner : readParameter b.name b.type b.inner = b.parameter := by
  have required : blockField "Required?" b.inner = b.required.value := by
    unfold inner
    rw [b.blockField_cons_description (by decide), blockField_cons_line (by decide)]
  have position : blockField "Position?" b.inner = b.position.value := by
    unfold inner
    rw [b.blockField_cons_description (by decide), blockField_cons_other (by decide) (by decide),
      blockField_cons_line (by decide)]
  have defaultValue : blockField "Default value" b.inner = b.defaultValue.value := by
    unfold inner
    rw [b.blockField_cons_description (by decide), blockField_cons_other (by decide) (by decide),
      blockField_cons_other (by decide) (by decide), blockField_cons_line (by decide)]
  have pipelineInput :
      blockField "Accept pipeline input?" b.inner = b.pipelineInput.value := by
    unfold inner
    rw [b.blockField_cons_description (by decide), blockField_cons_other (by decide) (by decide),
      blockField_cons_other (by decide) (by decide), blockField_cons_other (by decide) (by decide),
      blockField_cons_line (by decide)]
  have wildcards :
      blockField "Accept wildcard characters?" b.inner = b.wildcards.value := by
    unfold inner
    rw [b.blockField_cons_description (by decide), blockField_cons_other (by decide) (by decide),
      blockField_cons_other (by decide) (by decide), blockField_cons_other (by decide) (by decide),
      blockField_cons_other (by decide) (by decide), blockField_cons_line (by decide)]
  rw [readParameter, blockDescription_inner, required, position, defaultValue, pipelineInput,
    wildcards]
  rfl

end Block

end Layout

theorem readParameters_append_of_not_anchor {lines : List Line}
    (free : ∀ line ∈ lines, anchor? line = none) (rest : List Line) :
    readParameters (lines ++ rest) = readParameters rest := by
  induction lines with
  | nil => rfl
  | cons line lines ih =>
      rw [List.cons_append, readParameters, free line List.mem_cons_self]
      exact ih fun other member => free other (List.mem_cons_of_mem _ member)

theorem blockLines_append_of_not_anchor {lines : List Line}
    (free : ∀ line ∈ lines, anchor? line = none) (rest : List Line) :
    blockLines (lines ++ rest) = lines ++ blockLines rest :=
  List.takeWhile_append_of_pos fun line member => by simp [free line member]

theorem blockLines_blocks (blocks : List Block) : blockLines (blocks.flatMap Block.lines) = [] := by
  cases blocks with
  | nil => rfl
  | cons b others => simp [Block.lines, blockLines, b.anchor?_anchor]

theorem readParameters_blocks (blocks : List Block) :
    readParameters (blocks.flatMap Block.lines) = blocks.map Block.parameter := by
  induction blocks with
  | nil => rfl
  | cons b others ih =>
      have inside : ∀ line ∈ b.inner, anchor? line = none :=
        fun line member => b.anchor?_of_mem_inner member
      have step : readParameters (b.anchor :: (b.inner ++ others.flatMap Block.lines)) =
          b.parameter :: others.map Block.parameter := by
        rw [readParameters, b.anchor?_anchor]
        dsimp only
        rw [blockLines_append_of_not_anchor inside, blockLines_blocks, List.append_nil,
          b.readParameter_inner, readParameters_append_of_not_anchor inside, ih]
      exact step

namespace Document

variable (doc : Document) (rest : List Line)

theorem commonLines_indented {line : Line} (member : line ∈ doc.commonLines) :
    ∃ indent text, IsIndent indent ∧ line = indent ++ text := by
  unfold commonLines at member
  cases shape : doc.common with
  | none => rw [shape] at member; cases member
  | some common =>
      rw [shape] at member
      simp only [Option.map_some, Option.getD_some, Common.lines, List.mem_cons,
        List.not_mem_nil, or_false] at member
      rcases member with rfl | rfl
      · exact ⟨_, _, common.isIndent, rfl⟩
      · exact ⟨_, _, common.text.isIndent, rfl⟩

/-- The line of the common parameters cuts off itself and the text after it. -/
theorem takeWhile_commonLines :
    doc.commonLines.takeWhile (fun line => !isCommonParameters line) = [] := by
  unfold commonLines
  cases doc.common with
  | none => rfl
  | some common =>
      have ends : isCommonParameters (common.indent ++ "<CommonParameters>".toList) = true := by
        rw [isCommonParameters_gaps_append common.isIndent.2]
        decide
      change List.takeWhile _ [_, common.text.line] = []
      exact List.takeWhile_cons_of_neg (by simp only [ends]; decide)

/-- The parameters section ends at the first heading after it and holds the blocks. -/
theorem parametersSection_frontLines :
    parametersSection (doc.frontLines ++ rest) = doc.blocks.flatMap Block.lines := by
  have indented : ∀ line ∈ doc.blocks.flatMap Block.lines ++ doc.commonLines,
      (!isUnindented line) = true := by
    intro line member
    have shape : ∃ indent text, IsIndent indent ∧ line = indent ++ text := by
      rcases List.mem_append.mp member with block | common
      · obtain ⟨b, _, inside⟩ := List.mem_flatMap.mp block
        exact b.indented_of_mem_lines inside
      · exact doc.commonLines_indented common
    obtain ⟨indent, text, isIndent, rfl⟩ := shape
    rw [isUnindented_indent_append isIndent]
    rfl
  have plain : ∀ line ∈ doc.blocks.flatMap Block.lines, (!isCommonParameters line) = true := by
    intro line member
    obtain ⟨b, _, inside⟩ := List.mem_flatMap.mp member
    rw [b.isCommonParameters_of_mem_lines inside]
    rfl
  have heading : (doc.headings ++ rest).takeWhile (fun line => !isUnindented line) = [] := by
    cases shape : doc.headings with
    | nil => exact absurd shape doc.headings_ne_nil
    | cons first others =>
        have unindented := (doc.headings_isHeading first (by simp [shape])).unindented
        simp [unindented]
  have sections : doc.frontLines ++ rest = doc.scalarLines ++ "PARAMETERS".toList ::
      (doc.blocks.flatMap Block.lines ++ doc.commonLines ++ (doc.headings ++ rest)) := by
    simp [frontLines]
  rw [sections, parametersSection_scalarLines, parametersSection_cons_header (by decide),
    List.takeWhile_append_of_pos indented, heading, List.append_nil,
    List.takeWhile_append_of_pos plain, takeWhile_commonLines, List.append_nil]

end Document

end CommandDocs.Help

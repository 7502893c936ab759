import CommandDocs.Proofs.Help.Forms
import CommandDocs.Proofs.Help.Reading
import Mathlib.Data.List.Chain

/-!
# What an extracted value looks like

Every value but the body of an example comes from one line and holds no line feed.  A body may
hold line feeds, but its lines are those of an example, so what follows a line feed is a blank.
-/

namespace CommandDocs.Help

open Layout

/-- A text without line feeds. -/
def IsFlat (s : String) : Prop :=
  '\n' ∉ s.toList

instance (s : String) : Decidable (IsFlat s) :=
  inferInstanceAs (Decidable (¬_))

/-- What may follow a character of a body: a blank after a line feed, anything else otherwise. -/
def Hangs (first second : Char) : Prop :=
  first = '\n' → Text.isBlank second = true

/-- A body whose lines after the first are empty or start with a blank, and whose last line is
not empty. -/
structure IsHanging (s : String) : Prop where
  chain : s.toList.IsChain Hangs
  ended : ∀ c ∈ s.toList.getLast?, c ≠ '\n'

/-- A parameter as it can be read from a block. -/
structure Parameter.IsLegible (p : Parameter) : Prop where
  name : p.name.toList.all isNameChar = true
  typeHint : IsFlat p.typeHint
  description : IsFlat p.description
  required : IsFlat p.required
  position : IsFlat p.position
  defaultValue : IsFlat p.defaultValue
  pipelineInput : IsFlat p.pipelineInput
  wildcards : IsFlat p.wildcards

/-- Values as they can be read from a help text. -/
structure Fields.IsLegible (fields : Fields) : Prop where
  name : IsFlat fields.name
  synopsis : IsFlat fields.synopsis
  usage : IsFlat fields.usage
  description : IsFlat fields.description
  parameters : ∀ p ∈ fields.parameters, p.IsLegible
  examples : ∀ e ∈ fields.examples, IsHanging e.body

/-! ## Values of one line -/

theorem isFlat_ofList {s : Line} (free : '\n' ∉ s) : IsFlat (String.ofList s) := by
  rwa [IsFlat, String.toList_ofList]

theorem not_mem_trimBoth {p : Char → Bool} {c : Char} {s : Line} (free : c ∉ s) :
    c ∉ Text.trimBoth p s :=
  fun member => free ((Text.trimBoth_infix p s).sublist.subset member)

theorem not_mem_of_mem_linesOf {text : String} {line : Line} (member : line ∈ linesOf text) :
    '\n' ∉ line :=
  Text.not_mem_of_mem_splitAt member

theorem sectionValue?_mem {lines : List Line} {value : Line}
    (found : sectionValue? lines = some value) : ∃ line ∈ lines, value = Text.trim line := by
  induction lines with
  | nil => cases found
  | cons line rest ih =>
      unfold sectionValue? at found
      split at found
      · obtain ⟨source, member, same⟩ := ih found
        exact ⟨source, List.mem_cons_of_mem _ member, same⟩
      · split at found
        · split at found
          · exact ⟨_, List.mem_cons_self, (Option.some.inj found).symm⟩
          · cases found
        · cases found

/-- A section without a value is empty; any other value is a line without its blanks. -/
theorem scalar_mem (header : String) (lines : List Line) :
    scalar header lines = [] ∨ ∃ line ∈ lines, scalar header lines = Text.trim line := by
  induction lines with
  | nil => exact Or.inl rfl
  | cons line rest ih =>
      have later : scalar header rest = [] ∨
          ∃ source ∈ line :: rest, scalar header rest = Text.trim source := by
        rcases ih with empty | ⟨source, member, same⟩
        · exact Or.inl empty
        · exact Or.inr ⟨source, List.mem_cons_of_mem _ member, same⟩
      unfold scalar
      split
      · cases found : sectionValue? rest with
        | none => exact later
        | some value =>
            obtain ⟨source, member, same⟩ := sectionValue?_mem found
            exact Or.inr ⟨source, List.mem_cons_of_mem _ member, same⟩
      · exact later

theorem isFlat_scalar (header : String) {lines : List Line} (flat : ∀ line ∈ lines, '\n' ∉ line) :
    IsFlat (String.ofList (scalar header lines)) := by
  refine isFlat_ofList ?_
  rcases scalar_mem header lines with empty | ⟨line, member, same⟩
  · simp [empty]
  · rw [same]
    exact not_mem_trimBoth (flat line member)

/-! ## Parameters -/

theorem parametersSection_subset (lines : List Line) : parametersSection lines ⊆ lines := by
  induction lines with
  | nil => exact fun _ member => member
  | cons line rest ih =>
      cases rest with
      | nil => exact fun _ member => by cases member
      | cons next others =>
          unfold parametersSection parametersSection?
          split
          · intro source member
            exact List.mem_cons_of_mem _
              ((List.takeWhile_sublist _).subset ((List.takeWhile_sublist _).subset member))
          · exact fun source member => List.mem_cons_of_mem _ (ih member)

theorem not_mem_afterLabel? {label : String} {line rest : Line} {c : Char} (free : c ∉ line)
    (found : afterLabel? label line = some rest) : c ∉ rest := by
  intro member
  have whole := Text.afterStart?_eq_some_iff.mp found
  refine free ((List.dropWhile_sublist Text.isGap).subset ?_)
  rw [whole]
  exact List.mem_append_right _ member

theorem isFlat_blockField (label : String) {block : List Line}
    (flat : ∀ line ∈ block, '\n' ∉ line) : IsFlat (String.ofList (blockField label block)) := by
  refine isFlat_ofList (not_mem_trimBoth ?_)
  cases found : block.findSome? (afterLabel? label) with
  | none => simp
  | some rest =>
      obtain ⟨line, member, here⟩ := List.exists_of_findSome?_eq_some found
      exact not_mem_afterLabel? (flat line member) here

theorem not_mem_blockDescription {block : List Line} (flat : ∀ line ∈ block, '\n' ∉ line) :
    '\n' ∉ blockDescription block := by
  induction block with
  | nil => simp [blockDescription]
  | cons line rest ih =>
      unfold blockDescription
      dsimp only
      split
      · exact ih fun other member => flat other (List.mem_cons_of_mem _ member)
      · split
        · simp
        · exact not_mem_trimBoth (flat line List.mem_cons_self)

/-- The name of an anchor is made of name characters, and its type comes from the line. -/
theorem anchor?_spec {line name type : Line} (found : anchor? line = some (name, type)) :
    name.all isNameChar = true ∧ type ⊆ line := by
  obtain ⟨⟨c, first, alpha⟩, gaps, rest, _, _, rfl, names, _, rfl⟩ :=
    isParameterAnchor_of_anchor? found
  obtain ⟨more, rfl⟩ := List.head?_eq_some_iff.mp first
  constructor
  · have letter : isNameChar c = true := by simp [isNameChar, Text.isWord_of_isAlpha alpha]
    rw [List.all_cons, letter, Bool.true_and]
    exact List.all_eq_true.mpr names
  · intro d member
    have inRest := (Text.trimBoth_infix _ _).sublist.subset member
    exact List.mem_append_right _ (List.mem_cons_of_mem _ (List.mem_append_right _ inRest))

theorem isLegible_readParameter {line name type : Line} (found : anchor? line = some (name, type))
    (free : '\n' ∉ line) {block : List Line} (flat : ∀ line ∈ block, '\n' ∉ line) :
    (readParameter name type block).IsLegible where
  name := by
    rw [readParameter, String.toList_ofList]
    exact (anchor?_spec found).1
  typeHint := isFlat_ofList fun member => free ((anchor?_spec found).2 member)
  description := isFlat_ofList (not_mem_blockDescription flat)
  required := isFlat_blockField _ flat
  position := isFlat_blockField _ flat
  defaultValue := isFlat_blockField _ flat
  pipelineInput := isFlat_blockField _ flat
  wildcards := isFlat_blockField _ flat

theorem isLegible_of_mem_readParameters {lines : List Line} (flat : ∀ line ∈ lines, '\n' ∉ line)
    {p : Parameter} (member : p ∈ readParameters lines) : p.IsLegible := by
  induction lines with
  | nil => cases member
  | cons line rest ih =>
      have later : ∀ other ∈ rest, '\n' ∉ other :=
        fun other inside => flat other (List.mem_cons_of_mem _ inside)
      unfold readParameters at member
      split at member
      · rename_i name type found
        rcases List.mem_cons.mp member with rfl | member
        · exact isLegible_readParameter found (flat line List.mem_cons_self)
            fun other inside => later other ((List.takeWhile_sublist _).subset inside)
        · exact ih later member
      · exact ih later member

/-! ## Bodies of examples -/

theorem isChain_of_not_mem {s : List Char} (free : '\n' ∉ s) : s.IsChain Hangs := by
  induction s with
  | nil => exact .nil
  | cons c rest ih =>
      simp only [List.mem_cons, not_or] at free
      exact (ih free.2).cons fun d _ same => absurd same.symm free.1

/-- In a text of lines that do not start with other characters, a line feed is followed by a
blank. -/
theorem isChain_joinFeeds {lines : List Line} (flat : ∀ line ∈ lines, '\n' ∉ line)
    (indented : ∀ line ∈ lines, isUnindented line = false) :
    (Text.joinFeeds lines).IsChain Hangs := by
  induction lines with
  | nil => exact .nil
  | cons line rest ih =>
      have here := isChain_of_not_mem (flat line List.mem_cons_self)
      by_cases last : rest = []
      · subst last
        exact here
      · have later := ih (fun other member => flat other (List.mem_cons_of_mem _ member))
          fun other member => indented other (List.mem_cons_of_mem _ member)
        have after : ∀ c ∈ (Text.joinFeeds rest).head?, Hangs '\n' c := by
          intro c first _
          cases rest with
          | nil => exact absurd rfl last
          | cons next others =>
              have shape := indented next (List.mem_cons_of_mem _ List.mem_cons_self)
              cases next with
              | nil =>
                  cases others with
                  | nil => cases first
                  | cons third others =>
                      rw [Text.joinFeeds, Text.joinWith_cons [] (List.cons_ne_nil _ _)] at first
                      rw [← Option.some.inj first]
                      decide
              | cons d more =>
                  have same : d = c := by
                    cases others with
                    | nil => exact Option.some.inj first
                    | cons third others => exact Option.some.inj first
                  rw [← same]
                  simpa [isUnindented] using shape
        rw [Text.joinFeeds, Text.joinWith_cons line last]
        refine here.append (later.cons after) ?_
        intro c final d first same
        subst same
        exact absurd (List.mem_of_getLast? final) (flat line List.mem_cons_self)

theorem exampleLines_subset (lines : List Line) : exampleLines lines ⊆ lines := by
  induction lines with
  | nil => exact fun _ member => member
  | cons line rest ih =>
      unfold exampleLines
      split
      · exact fun _ member => by cases member
      · exact List.cons_subset_cons line ih

theorem isUnindented_of_mem_exampleLines {lines : List Line} {line : Line}
    (member : line ∈ exampleLines lines) : isUnindented line = false := by
  induction lines with
  | nil => cases member
  | cons first rest ih =>
      unfold exampleLines at member
      split at member
      · cases member
      · rename_i goesOn
        rcases List.mem_cons.mp member with rfl | member
        · cases shape : isUnindented line with
          | false => rfl
          | true => simp [shape] at goesOn
        · exact ih member

theorem isHanging_body {lines : List Line} (flat : ∀ line ∈ lines, '\n' ∉ line) :
    IsHanging (String.ofList (Text.trim (Text.joinFeeds (exampleLines lines)))) := by
  have chain := isChain_joinFeeds (fun line member => flat line (exampleLines_subset lines member))
    fun line member => isUnindented_of_mem_exampleLines member
  constructor
  · rw [String.toList_ofList]
    exact chain.infix (Text.trimBoth_infix _ _)
  · rw [String.toList_ofList]
    intro c last same
    have solid := Text.getLast?_trimBoth last
    rw [same] at solid
    exact absurd solid (by decide)

theorem isHanging_of_mem_readExamples {lines : List Line} (flat : ∀ line ∈ lines, '\n' ∉ line)
    {examples : List Example} (read : readExamples lines = .ok examples) :
    ∀ e ∈ examples, IsHanging e.body := by
  induction lines generalizing examples with
  | nil => simp [← Except.ok.inj read]
  | cons line rest ih =>
      cases rest with
      | nil => simp [← Except.ok.inj read]
      | cons next others =>
          have later : ∀ other ∈ next :: others, '\n' ∉ other :=
            fun other inside => flat other (List.mem_cons_of_mem _ inside)
          rw [readExamples_cons_cons] at read
          cases large : oversized? line with
          | some count => simp [large] at read
          | none =>
              cases anchor : exampleDigits? line with
              | none =>
                  simp only [large, anchor] at read
                  exact ih later read
              | some digits =>
                  simp only [large, anchor] at read
                  cases rests : readExamples (next :: others) with
                  | error fault => simp [rests, Except.map] at read
                  | ok more =>
                      rw [rests] at read
                      rw [← Except.ok.inj read]
                      intro e member
                      rcases List.mem_cons.mp member with rfl | member
                      · exact isHanging_body later
                      · exact ih later rests e member

/-- **Whatever is read from a help text is legible.** -/
theorem isLegible_of_extract {text : String} {fields : Fields}
    (read : extract text = .ok fields) : fields.IsLegible := by
  have flat : ∀ line ∈ linesOf text, '\n' ∉ line := fun line => not_mem_of_mem_linesOf
  rw [extract_eq_map] at read
  cases examples : readExamples (linesOf text) with
  | error fault => simp [examples, Except.map] at read
  | ok found =>
      rw [examples] at read
      rw [← Except.ok.inj read]
      exact {
        name := isFlat_scalar _ flat
        synopsis := isFlat_scalar _ flat
        usage := isFlat_scalar _ flat
        description := isFlat_scalar _ flat
        parameters := fun p member => isLegible_of_mem_readParameters
          (fun line inside => flat line (parametersSection_subset _ inside)) member
        examples := isHanging_of_mem_readExamples flat examples
      }

end CommandDocs.Help

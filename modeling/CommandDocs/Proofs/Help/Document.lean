import CommandDocs.Help.Extract
import CommandDocs.Proofs.Help.GapLines

/-!
# Help documents

A help document is what the help formatter prints for one command: four sections of one
paragraph each, the parameters, further headings, and the examples.  The structures below carry
the rules of the layout, and `Document.LaidOut` says which lines print a document.  Lines of gaps
may stand anywhere before the first example.
-/

namespace CommandDocs.Help

open Layout

namespace Layout

/-- The text of one line holds no line feed and no carriage return. -/
def IsSingle (s : Line) : Prop :=
  '\n' ∉ s ∧ '\r' ∉ s

instance (s : Line) : Decidable (IsSingle s) :=
  inferInstanceAs (Decidable (_ ∧ _))

/-- A line is indented by spaces and tabs, at least one. -/
def IsIndent (s : Line) : Prop :=
  s ≠ [] ∧ isGapLine s = true

instance (s : Line) : Decidable (IsIndent s) :=
  inferInstanceAs (Decidable (_ ∧ _))

/-- A parameter name is a letter followed by word characters and hyphens. -/
def isName : Line → Bool
  | [] => false
  | c :: rest => c.isAlpha && rest.all isNameChar

/-- Whether three lines of gaps in a row stand somewhere in a list. -/
def hasBlankRun : List Line → Bool
  | a :: b :: c :: rest =>
      isGapLine a && isGapLine b && isGapLine c || hasBlankRun (b :: c :: rest)
  | _ => false

/-- The text of a paragraph is not empty, has no surrounding blanks, stands on one line, and is
no example anchor. -/
structure IsParagraph (s : Line) : Prop where
  ne_nil : s ≠ []
  trimmed : Text.trim s = s
  single : IsSingle s
  free : exampleDigits? s = none

instance (s : Line) : Decidable (IsParagraph s) :=
  decidable_of_iff (s ≠ [] ∧ Text.trim s = s ∧ IsSingle s ∧ exampleDigits? s = none)
    ⟨fun ⟨a, b, c, d⟩ => ⟨a, b, c, d⟩, fun ⟨a, b, c, d⟩ => ⟨a, b, c, d⟩⟩

/-- The text of a description is a paragraph that neither starts with the label of a field nor
ends the blocks of the section. -/
structure IsDescription (s : Line) : Prop extends IsParagraph s where
  unlabelled : startsWithLabel s = false
  uncommon : isCommonParameters s = false

instance (s : Line) : Decidable (IsDescription s) :=
  decidable_of_iff
    (IsParagraph s ∧ startsWithLabel s = false ∧ isCommonParameters s = false)
    ⟨fun ⟨a, b, c⟩ => ⟨a, b, c⟩, fun ⟨a, b, c⟩ => ⟨a, b, c⟩⟩

/-- A heading starts at the start of its line and is no example anchor. -/
structure IsHeading (s : Line) : Prop where
  unindented : isUnindented s = true
  single : IsSingle s
  free : exampleDigits? s = none

instance (s : Line) : Decidable (IsHeading s) :=
  decidable_of_iff (isUnindented s = true ∧ IsSingle s ∧ exampleDigits? s = none)
    ⟨fun ⟨a, b, c⟩ => ⟨a, b, c⟩, fun ⟨a, b, c⟩ => ⟨a, b, c⟩⟩

/-- A line of an example stands on one line, is empty or indented, and is no example anchor. -/
structure IsBodyLine (s : Line) : Prop where
  indented : isUnindented s = false
  single : IsSingle s
  free : exampleDigits? s = none

instance (s : Line) : Decidable (IsBodyLine s) :=
  decidable_of_iff (isUnindented s = false ∧ IsSingle s ∧ exampleDigits? s = none)
    ⟨fun ⟨a, b, c⟩ => ⟨a, b, c⟩, fun ⟨a, b, c⟩ => ⟨a, b, c⟩⟩

/-- An indented line with a text. -/
structure Paragraph where
  indent : Line
  text : Line
  isIndent : IsIndent indent := by decide
  isParagraph : IsParagraph text := by decide

def Paragraph.line (p : Paragraph) : Line :=
  p.indent ++ p.text

/-- What stands after the label of a field: gaps and a value, which may be empty. -/
structure Labelled where
  space : Line := []
  value : Line := []
  space_gaps : isGapLine space = true := by decide
  value_trimmed : Text.trimGaps value = value := by decide
  value_single : IsSingle value := by decide

/-- The line of a field is indented by eight spaces. -/
def Labelled.line (label : String) (field : Labelled) : Line :=
  List.replicate 8 ' ' ++ (label.toList ++ (field.space ++ field.value))

/-- The anchor of a parameter without its indentation: a dash, the name, and the type if there is
one. -/
def anchorText (name type : Line) : Line :=
  '-' :: name ++ if type = [] then [] else ' ' :: type

structure Block where
  name : Line
  type : Line := []
  description : Line
  required : Labelled
  position : Labelled
  defaultValue : Labelled
  pipelineInput : Labelled
  wildcards : Labelled
  name_isName : isName name = true := by decide
  type_trimmed : Text.trimGaps type = type := by decide
  single : IsSingle (anchorText name type) := by decide
  free : exampleDigits? (anchorText name type) = none := by decide
  isDescription : IsDescription description := by decide

namespace Block

/-- The anchor of a block is indented by four spaces. -/
def anchor (b : Block) : Line :=
  List.replicate 4 ' ' ++ anchorText b.name b.type

/-- The lines of a block after its anchor. -/
def inner (b : Block) : List Line :=
  [
    List.replicate 8 ' ' ++ b.description,
    b.required.line "Required?",
    b.position.line "Position?",
    b.defaultValue.line "Default value",
    b.pipelineInput.line "Accept pipeline input?",
    b.wildcards.line "Accept wildcard characters?"
  ]

def lines (b : Block) : List Line :=
  b.anchor :: b.inner

/-- The parameter that a block prints. -/
def parameter (b : Block) : Parameter where
  name := String.ofList b.name
  typeHint := String.ofList b.type
  description := String.ofList b.description
  required := String.ofList b.required.value
  position := String.ofList b.position.value
  defaultValue := String.ofList b.defaultValue.value
  pipelineInput := String.ofList b.pipelineInput.value
  wildcards := String.ofList b.wildcards.value

end Block

/-- The common parameters that may close the parameters section: their line and one text. -/
structure Common where
  indent : Line
  text : Paragraph
  isIndent : IsIndent indent := by decide

def Common.lines (c : Common) : List Line :=
  [c.indent ++ "<CommonParameters>".toList, c.text.line]

/-- One example: its ruled anchor with the digits of its number, a line of gaps, the lines of its
body, and at least three lines of gaps. -/
structure Shown where
  indent : Line
  left : Nat
  digits : Line
  right : Nat
  opening : Line := []
  body : List Line
  closing : List Line
  isIndent : IsIndent indent := by decide
  digits_ne_nil : digits ≠ [] := by decide
  digits_decimal : digits.all Text.isDecimal = true := by decide
  digits_length : digits.length ≤ Text.digitLimit := by decide
  opening_gaps : isGapLine opening = true := by decide
  body_lines : ∀ line ∈ body, IsBodyLine line := by decide
  body_compact : hasBlankRun (opening :: body) = false := by decide
  closing_gaps : closing.all isGapLine = true := by decide
  closing_length : 3 ≤ closing.length := by decide

namespace Shown

/-- The anchor has a rule of at least one dash on either side of its text. -/
def anchor (e : Shown) : Line :=
  e.indent ++ ('-' :: List.replicate e.left '-' ++ (" EXAMPLE ".toList ++
    (e.digits ++ ' ' :: '-' :: List.replicate e.right '-')))

def lines (e : Shown) : List Line :=
  e.anchor :: e.opening :: e.body ++ e.closing

/-- The example that the lines print: the number as it stands there, and the body without
surrounding blanks. -/
def toExample (e : Shown) : Example where
  number := Text.decimalValue e.digits
  body := String.ofList (Text.trim (Text.joinFeeds e.body))

end Shown

end Layout

structure Document where
  name : Paragraph
  synopsis : Paragraph
  usage : Paragraph
  description : Paragraph
  blocks : List Block
  common : Option Common
  headings : List Line
  shown : List Shown
  last : Line
  headings_ne_nil : headings ≠ [] := by decide
  headings_isHeading : ∀ line ∈ headings, IsHeading line := by decide
  last_isHeading : IsHeading last := by decide

namespace Document

def scalarLines (doc : Document) : List Line :=
  [
    "NAME".toList, doc.name.line, "SYNOPSIS".toList, doc.synopsis.line,
    "SYNTAX".toList, doc.usage.line, "DESCRIPTION".toList, doc.description.line
  ]

def commonLines (doc : Document) : List Line :=
  (doc.common.map Common.lines).getD []

/-- The solid lines before the first example. -/
def frontLines (doc : Document) : List Line :=
  doc.scalarLines ++ "PARAMETERS".toList ::
    (doc.blocks.flatMap Block.lines ++ (doc.commonLines ++ doc.headings))

/-- Which lines print a document: its solid lines with lines of gaps anywhere between them, then
its examples, and then its last heading with perhaps lines of gaps after it. -/
def LaidOut (doc : Document) (lines : List Line) : Prop :=
  ∃ front after, solidLines front = doc.frontLines ∧ after.all isGapLine = true ∧
    lines = front ++ (doc.shown.flatMap Shown.lines ++ doc.last :: after)

/-- The values that a document was laid out from. -/
def fields (doc : Document) : Fields where
  name := String.ofList doc.name.text
  synopsis := String.ofList doc.synopsis.text
  usage := String.ofList doc.usage.text
  description := String.ofList doc.description.text
  parameters := doc.blocks.map Block.parameter
  examples := doc.shown.map Shown.toExample

end Document

end CommandDocs.Help

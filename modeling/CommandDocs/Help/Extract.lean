import CommandDocs.Help.Fields
import CommandDocs.Help.Layout
import CommandDocs.Text.Line
import CommandDocs.Text.Number

/-!
# Reading help text

Sections that are absent give empty values. The only text that is refused is one with an
example number of too many digits.
-/

namespace CommandDocs.Help

open Layout

/-- The value of a section: the first line that is not made of gaps, when it is indented by
gaps and holds something else than blanks right after them. -/
def sectionValue? : List Line → Option Line
  | [] => none
  | line :: rest =>
      if isGapLine line then sectionValue? rest
      else match line with
        | c :: _ =>
            if Text.isGap c && isUnindented (line.dropWhile Text.isGap) then some (Text.trim line)
            else none
        | [] => none

/-- The value of the first section with a given header that has one. -/
def scalar (header : String) : List Line → Line
  | [] => []
  | line :: rest =>
      if isHeader header line then (sectionValue? rest).getD (scalar header rest)
      else scalar header rest

/-- The lines of the parameters section, if there is one; a header without a line after it opens
none. -/
def parametersSection? : List Line → Option (List Line)
  | [] => none
  | [_] => none
  | line :: rest =>
      if isHeader "PARAMETERS" line then
        some ((rest.takeWhile fun l => !isUnindented l).takeWhile fun l => !isCommonParameters l)
      else parametersSection? rest

/-- The lines of the parameters section; without one there are none. -/
def parametersSection (lines : List Line) : List Line :=
  (parametersSection? lines).getD []

def blockLines (lines : List Line) : List Line :=
  lines.takeWhile fun line => (anchor? line).isNone

/-- The description of a parameter: its first line that is not blank, unless that line is
already a field. -/
def blockDescription : List Line → Line
  | [] => []
  | line :: rest =>
      let text := Text.trim line
      if text.isEmpty then blockDescription rest
      else if startsWithLabel text then [] else text

/-- The value of the first line of a block with a given label. -/
def blockField (label : String) (block : List Line) : Line :=
  Text.trimGaps ((block.findSome? (afterLabel? label)).getD [])

/-- The parameter of an anchor and its block. -/
def readParameter (name type : Line) (block : List Line) : Parameter where
  name := String.ofList name
  typeHint := String.ofList type
  description := String.ofList (blockDescription block)
  required := String.ofList (blockField "Required?" block)
  position := String.ofList (blockField "Position?" block)
  defaultValue := String.ofList (blockField "Default value" block)
  pipelineInput := String.ofList (blockField "Accept pipeline input?" block)
  wildcards := String.ofList (blockField "Accept wildcard characters?" block)

def readParameters : List Line → List Parameter
  | [] => []
  | line :: rest =>
      match anchor? line with
      | some (name, type) => readParameter name type (blockLines rest) :: readParameters rest
      | none => readParameters rest

/-- Whether three lines of gaps, each ended by a line feed, open the remaining lines. -/
def opensBlankRun : List Line → Bool
  | a :: b :: c :: _ :: _ => isGapLine a && isGapLine b && isGapLine c
  | _ => false

/-- The lines of an example: up to a run of three lines of gaps, the next anchor, or a line
that is not indented. -/
def exampleLines : List Line → List Line
  | [] => []
  | line :: rest =>
      if opensBlankRun (line :: rest) || (exampleDigits? line).isSome || isUnindented line then []
      else line :: exampleLines rest

/-- One example for each anchor that is ended by a line feed. -/
def readExamples : List Line → Except Text.NumberFault (List Example)
  | [] => .ok []
  | [_] => .ok []
  | line :: rest =>
      match exampleDigits? line with
      | none => readExamples rest
      | some digits => do
          let number ← Text.readDigits digits
          let body := Text.trim (Text.joinFeeds (exampleLines rest))
          let more ← readExamples rest
          return ⟨number, String.ofList body⟩ :: more

def linesOf (text : String) : List Line :=
  Text.splitFeeds (Text.unifyBreaks text.toList)

/-- Everything that a help text says. -/
def extract (text : String) : Except Text.NumberFault Fields := do
  let lines := linesOf text
  let examples ← readExamples lines
  return {
    name := String.ofList (scalar "NAME" lines)
    synopsis := String.ofList (scalar "SYNOPSIS" lines)
    usage := String.ofList (scalar "SYNTAX" lines)
    description := String.ofList (scalar "DESCRIPTION" lines)
    parameters := readParameters (parametersSection lines)
    examples := examples
  }

/-- The synopsis alone. -/
def extractSynopsis (text : String) : String :=
  String.ofList (scalar "SYNOPSIS" (linesOf text))

theorem extract_synopsis {text : String} {fields : Fields} (h : extract text = .ok fields) :
    fields.synopsis = extractSynopsis text := by
  unfold extract at h
  cases hr : readExamples (linesOf text) with
  | error fault => simp [hr, bind, Except.bind] at h
  | ok examples =>
      simp only [hr, bind, Except.bind, pure, Except.pure, Except.ok.injEq] at h
      rw [← h]
      rfl

end CommandDocs.Help

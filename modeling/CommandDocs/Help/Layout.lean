import CommandDocs.Text.Blank
import CommandDocs.Text.Digit
import CommandDocs.Text.Word

/-!
# The layout of help text

Help text is printed so wide that every paragraph is one line. A section opens with a header
at the start of a line. The parameters section holds blocks opened by an anchor, a dash and a
name indented by at most four gaps; examples are opened by a ruled anchor with their number.
-/

namespace CommandDocs.Help

abbrev Line := List Char

namespace Layout

def isGapLine (line : Line) : Bool :=
  line.all Text.isGap

/-- A line that consists of a header and perhaps gaps after it. -/
def isHeader (header : String) (line : Line) : Bool :=
  match Text.afterStart? header.toList line with
  | some rest => isGapLine rest
  | none => false

/-- A line that starts with a character other than a blank. -/
def isUnindented : Line → Bool
  | [] => false
  | c :: _ => !Text.isBlank c

def afterLabel? (label : String) (line : Line) : Option Line :=
  Text.afterStart? label.toList (line.dropWhile Text.isGap)

def fieldLabels : List String :=
  ["Required?", "Position?", "Default value", "Accept pipeline input?",
    "Accept wildcard characters?"]

def startsWithLabel (line : Line) : Bool :=
  fieldLabels.any fun label => label.toList.isPrefixOf line

/-- The line that ends the blocks of the parameters section. -/
def isCommonParameters (line : Line) : Bool :=
  (afterLabel? "<CommonParameters>" line).isSome

def isNameChar (c : Char) : Bool :=
  Text.isWord c || c == '-'

def anchor? (line : Line) : Option (Line × Line) :=
  match line.dropWhile Text.isGap with
  | '-' :: c :: rest =>
      if (line.takeWhile Text.isGap).length ≤ 4 && c.isAlpha then
        some (c :: rest.takeWhile isNameChar, Text.trimGaps (rest.dropWhile isNameChar))
      else none
  | _ => none

def exampleDigits? (line : Line) : Option Line :=
  match line.dropWhile Text.isGap with
  | '-' :: rest =>
      match afterLabel? "EXAMPLE" (rest.dropWhile (· == '-')) with
      | some (c :: more) =>
          let digits := ((c :: more).dropWhile Text.isGap).takeWhile Text.isDecimal
          if Text.isGap c && !digits.isEmpty then some digits else none
      | _ => none
  | _ => none

end Layout

end CommandDocs.Help

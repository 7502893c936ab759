import CommandDocs.Console.Grapheme
import CommandDocs.Console.Marked
import CommandDocs.Text.Line

/-!
# Lines on the screen

A text is shown in lines of a limited width. Tabs are filled up with spaces, and a line that is
too wide is broken between its words. A word that is wider than a whole line is cut into lines, or
left whole where the lines are to be shortened. What is still too wide is cut off.
-/

namespace CommandDocs.Console

def tabStop : Nat := 8

/-- The numbers of spaces that the tabs of a line are filled up with, given the parts between them
and the column where the first part starts. -/
def tabFills (column : Nat) : (parts : List (List Char)) → List Nat
  | [] => []
  | [_] => []
  | part :: rest =>
      let reached := column + width (part ++ [' '])
      let more := (tabStop - reached % tabStop) % tabStop
      (more + 1) :: tabFills (reached + more) rest

/-- A piece with a number of spaces for the tab at its end. What is marked up to the end stays
so. -/
def fillTab (n : Nat) (piece : Marked) : Marked :=
  let size := piece.text.length
  let text := piece.text.dropLast ++ List.replicate n ' '
  ⟨text, piece.marks.map fun m => if m.stop < size then m else { m with stop := text.length }⟩

/-- The pieces of a line with numbers of spaces for the tabs at their ends. -/
def fillTabs : (fills : List Nat) → List Marked → List Marked
  | n :: fills, piece :: rest => fillTab n piece :: fillTabs fills rest
  | _, rest => rest

/-- A line with spaces up to the next stop for every tab. -/
def expandTabs (line : Marked) : Marked :=
  match Text.splitAt '\t' line.text with
  | [_] => line
  | parts =>
      let texts := parts.dropLast.map (· ++ ['\t']) ++ [parts.getLastD []]
      Marked.joinFrom 0 (fillTabs (tabFills 0 parts) (line.pieces 0 texts))

/-- The words of a line, each with the blanks after it; blanks at the start belong to the first
word. A line of blanks has no words. -/
def words (line : List Char) : List (List Char) :=
  match line.splitBy fun a b => !Text.isBlank a || Text.isBlank b with
  | first :: second :: more =>
      if first.all Text.isBlank then (first ++ second) :: more else first :: second :: more
  | [only] => if only.all Text.isBlank then [] else [only]
  | [] => []

/-- The line that some words make, the latest first, if there are any. -/
def lineOf (line : List (List Char)) : List (List Char) :=
  if line.isEmpty then [] else [line.reverse.flatten]

/-- Lines of a width filled with words. The first line holds some words already, the latest
first, which take a number of cells. -/
def fillLines (cutting : Bool) (limit : Nat) (line : List (List Char)) (cells : Nat) :
    List (List Char) → List (List Char)
  | [] => [line.reverse.flatten]
  | word :: more =>
      let size := width (Text.dropEndWhile Text.isBlank word)
      if cells + size ≤ limit then fillLines cutting limit (word :: line) (cells + width word) more
      else if cutting && limit < size then
        let pieces := cutWord limit word
        let last := pieces.getLastD []
        lineOf line ++ pieces.dropLast ++ fillLines cutting limit [last] (width last) more
      else lineOf line ++ fillLines cutting limit [word] (width word) more

/-- A line without the blanks at its end that make it longer than a limit. -/
def cropBlanks (limit : Nat) (line : Marked) : Marked :=
  let size := line.text.length
  let blanks := (line.text.reverse.takeWhile Text.isBlank).length
  match min blanks (size - limit) with
  | 0 => line
  | excess => line.shorten (line.text.take (size - excess))

/-- The lines in which one line of a text is shown. They may still be too wide where the blanks
at their end are wide, or where words are left whole. -/
def wrapLine (cutting : Bool) (limit : Nat) (line : Marked) : List Marked :=
  let expanded := expandTabs line
  let filled := match words expanded.text with
    | [] => [expanded.text]
    | found => fillLines cutting limit [] 0 found
  (expanded.pieces 0 filled).map (cropBlanks limit)

/-- The lines in which a text is shown. -/
def wrap (cutting : Bool) (limit : Nat) (t : Marked) : List Marked :=
  (t.pieces 1 (Text.splitFeeds t.text)).flatMap (wrapLine cutting limit)

/-- A line cut to a width if it is too wide. -/
def crop (limit : Nat) (line : List Char) : List Char :=
  if limit < width line then resize limit line else line

def screenWidth : Nat := 5000

/-- A text as it is printed, with the line feed after it. -/
def printed (t : Marked) : String :=
  let lines := (wrap true screenWidth t).map fun line => crop screenWidth line.text
  String.ofList (Text.joinFeeds lines ++ ['\n'])

end CommandDocs.Console

import CommandDocs.Console.Wrap

/-!
# Tables

A table is drawn with a title above it, a heavy head and light rows. Every column is as wide as
its widest cell, and every cell has one space at either side. When the table does not fit on the
screen its widest columns are made narrower, all alike. A cell of several lines makes its row as
high as they are.
-/

namespace CommandDocs.Console

structure Table where
  title : List Char
  head : List (List Char)
  rows : List (List Marked) := []
  deriving DecidableEq, Repr

namespace Table

/-- The width that a cell asks for: that of its widest line. -/
def wanted (cell : Marked) : Nat :=
  (Text.breakLines cell.text).foldl (fun widest line => max widest (width line)) 0

/-- The widths that the columns ask for, with the spaces at either side of a cell. -/
def wantedWidths (t : Table) : List Nat :=
  (t.rows.foldl (fun widths row => widths.zipWith max (row.map wanted)) (t.head.map width)).map
    (· + 2)

/-- A quotient rounded to the nearest number, and to the even one of two that are as near. -/
def roundedQuotient (n d : Nat) : Nat :=
  let below := n / d
  let rest := 2 * (n % d)
  if rest < d || (rest == d && below % 2 == 0) then below else below + 1

/-- Takes an excess off the columns of the greatest width, as evenly as it goes and from each one
`most` at most; `share` of them are left. -/
def takeOff (greatest most : Nat) : (share excess : Nat) → List Nat → List Nat
  | _, _, [] => []
  | share, excess, n :: rest =>
      if n == greatest then
        let part := min most (roundedQuotient excess share)
        (n - part) :: takeOff greatest most (share - 1) (excess - part) rest
      else n :: takeOff greatest most share excess rest

/-- Widths that are brought down to a sum. Every round but the last makes the widest columns as
wide as the next widest; the fuel is the number of rounds. -/
def collapse (limit : Nat) : Nat → List Nat → List Nat
  | 0, widths => widths
  | fuel + 1, widths =>
      let excess := widths.sum - limit
      if excess == 0 then widths
      else
        let greatest := widths.foldl max 0
        let next := (widths.filter (· != greatest)).foldl max 0
        let share := widths.count greatest
        collapse limit fuel (takeOff greatest (min excess (greatest - next)) share excess widths)

def columnWidths (t : Table) : List Nat :=
  let limit := screenWidth - (t.head.length + 1)
  (collapse limit (t.head.length + 1) (t.wantedWidths.map (min limit))).map (· - 2)

/-- A line brought to a width; one that is too wide ends in an ellipsis. -/
def fitTo (limit : Nat) (line : List Char) : List Char :=
  if width line ≤ limit then resize limit line else resize (limit - 1) line ++ ['…']

def cropSpans : (limit : Nat) → List (List Char) → List Char
  | _, [] => []
  | limit, span :: rest =>
      let cells := width span
      if cells < limit then span ++ cropSpans (limit - cells) rest
      else resize limit span

/-- A line brought to a width as a whole, and then once more as the spans that it is made up of. -/
def fitLine (limit : Nat) (line : Marked) : List Char :=
  let fitted := fitTo limit line.text
  let laid := if fitted.length < line.text.length then line.shorten fitted
    else { line with text := fitted }
  let cells := laid.cells
  if limit < cells then cropSpans limit laid.spans
  else fitted ++ List.replicate (limit - cells) ' '

def cellLines (limit : Nat) (cell : Marked) : List (List Char) :=
  (wrap false limit cell).map (fitLine limit)

/-- One line of a row: the line of each cell between two spaces, and a rule between the cells. -/
def joinCells (rule : Char) (cells : List (List Char)) : List Char :=
  rule :: cells.flatMap fun cell => ' ' :: cell ++ [' ', rule]

/-- Some lines of a row. A cell that has no more lines is blank. -/
def layRow (rule : Char) (widths : List Nat) : (height : Nat) → (cells : List (List (List Char))) →
    List (List Char)
  | 0, _ => []
  | height + 1, cells =>
      joinCells rule (widths.zipWith (fun limit lines => lines.headD (resize limit [])) cells) ::
        layRow rule widths height (cells.map List.tail)

def rowLines (rule : Char) (widths : List Nat) (row : List Marked) : List (List Char) :=
  let cells := widths.zipWith cellLines row
  let height := cells.foldl (fun highest lines => max highest lines.length) 1
  layRow rule widths height cells

/-- A horizontal rule with its start, the characters along and between the columns, and its
end. -/
def ruleLine (first along between last : Char) (widths : List Nat) : List Char :=
  first :: Text.joinWith between (widths.map fun n => List.replicate (n + 2) along) ++ [last]

def titleLine (total : Nat) (title : List Char) : List Char :=
  resize total (List.replicate ((total - width title) / 2) ' ' ++ title)

def lines (t : Table) : List (List Char) :=
  let widths := t.columnWidths
  let total := widths.foldl (fun sum n => sum + n + 3) 1
  [titleLine total t.title, ruleLine '┏' '━' '┳' '┓' widths] ++
    rowLines '┃' widths (t.head.map fun name => ⟨name, []⟩) ++ [ruleLine '┡' '━' '╇' '┩' widths] ++
    t.rows.flatMap (rowLines '│' widths) ++ [ruleLine '└' '─' '┴' '┘' widths]

/-- A table as it is printed. -/
def text (t : Table) : String :=
  String.ofList (t.lines.flatMap (· ++ ['\n']))

end Table

end CommandDocs.Console

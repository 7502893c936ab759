import CommandDocs.Toml.Layout.Block

/-!
# The text of a document

A table is written with its own header and whatever stands in it. The items of an array are
written with the key of the array, spelled as in its first item.
-/

namespace CommandDocs.Toml.Layout

/-- The spelling of a part after the key of the table around it. -/
def below (outer : Option (List Char)) (part : Part) : List Char :=
  match outer with
  | none => part.spelling
  | some key => key ++ '.' :: part.spelling

/-- The rest of the line after a header. -/
def Origin.tail : Origin → List Char
  | .header _ tail => tail
  | .again _ tail => tail
  | _ => []

/-- Whether a line is open after some text: whether its last character, spaces aside, is no line
feed. It is given whether one is open before the text. -/
def leavesOpen (opened : Bool) (text : List Char) : Bool :=
  match text.reverse.dropWhile (· == ' ') with
  | [] => opened
  | c :: _ => c != '\n'

mutual

/-- The text of a node in the table with a key. A table without a header shows nothing of its own
but the line feed that sets it off. -/
def Node.text (outer : Option (List Char)) : Node → List Char
  | .space text => text
  | .remark text => text
  | .entry _ lead value tail => lead ++ value ++ tail
  | .table part indent origin body =>
      match origin with
      | .dotted => textOf (some (below outer part)) false body
      | .implied =>
          (if indent == ['\n'] then indent else []) ++ textOf (some (below outer part)) false body
      | .header title tail =>
          let header := indent ++ '[' :: title ++ ']' :: tail
          header ++ textOf (some title) (leavesOpen false header) body
      | .again array tail =>
          let title := below outer part
          let header := if array then '[' :: '[' :: title ++ [']', ']'] else '[' :: title ++ [']']
          let header := indent ++ header ++ tail
          header ++ textOf (some title) (leavesOpen false header) body
  | .tables part items => textOfItems (below outer part) items

/-- The text of the nodes in the table with a key, after some text that may leave a line open. A
table begins on a new line. -/
def textOf (outer : Option (List Char)) (opened : Bool) : List Node → List Char
  | [] => []
  | node :: rest =>
      let text := node.text outer
      let text := if opened && node.opensLine then '\n' :: text else text
      text ++ textOf outer (leavesOpen opened text) rest

def textOfItems (key : List Char) : List Node → List Char
  | [] => []
  | .table _ indent origin body :: rest =>
      let header := indent ++ '[' :: '[' :: key ++ ']' :: ']' :: origin.tail
      header ++ textOf (some key) (leavesOpen false header) body ++ textOfItems key rest
  | _ :: rest => textOfItems key rest

end

def documentText (nodes : List Node) : List Char :=
  textOf none false nodes

end CommandDocs.Toml.Layout

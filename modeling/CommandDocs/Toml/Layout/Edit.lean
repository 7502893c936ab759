import CommandDocs.Toml.Layout.Text

/-!
# Editing a document

Setting a key at the top of a document leaves everything else as it is written. An entry that is
there keeps its place, its spelling and its comment; a new one follows the last entry or remark
before the first table with a header. Tables with the key are taken away.
-/

namespace CommandDocs.Toml.Layout

def endLine (text : List Char) : List Char :=
  if text.contains '\n' then text else text ++ ['\n']

mutual

/-- A node whose last line is ended, so that another one can follow. -/
def Node.close : Node → Node
  | .remark text => .remark (endLine text)
  | .entry part lead value tail => .entry part lead value (endLine tail)
  | .table part indent .dotted body => .table part indent .dotted (closeLast body)
  | node => node

def closeLast : List Node → List Node
  | [] => []
  | [node] => [node.close]
  | node :: rest => node :: closeLast rest

end

/-- A node set off from what is put before it: a table by an empty line, unless it has one. -/
def Node.setOff : Node → Node
  | .table part indent origin body =>
      .table part (if indent.contains '\n' then indent else '\n' :: indent) origin body
  | node => node

/-- Whether new entries go after a node: anything but white space. -/
def Node.isContent : Node → Bool
  | .space _ => false
  | _ => true

def newEntry (name : String) (value : List Char) : Node :=
  .entry ⟨name.toList.map Char.toNat, name.toList⟩ (name.toList ++ [' ', '=', ' ']) value ['\n']

/-- Adds a new entry after the last content before the first table with a header. What stands
there is set off from it. -/
def append (name : String) (value : List Char) (nodes : List Node) : List Node :=
  let top := nodes.takeWhile fun node => !node.opensLine
  let content := (top.reverse.dropWhile fun node => !node.isContent).reverse
  match nodes.drop content.length with
  | [] => closeLast content ++ [newEntry name value]
  | next :: rest => closeLast content ++ newEntry name value :: next.setOff :: rest

def Node.isEntryOf (name : List Nat) : Node → Bool
  | .entry part _ _ _ => part.name == name
  | _ => false

/-- A node with a new value, if it is the entry of a key. -/
def Node.replace (name : List Nat) (value : List Char) : Node → Node
  | .entry part lead old tail => .entry part lead (if part.name == name then value else old) tail
  | node => node

/-- A node, or empty space in place of a table with a key. -/
def Node.vacate (name : List Nat) (node : Node) : Node :=
  if node.name? == some name then .space [] else node

def set (name : String) (value : List Char) (nodes : List Node) : List Node :=
  let points := name.toList.map Char.toNat
  if nodes.any (Node.isEntryOf points) then nodes.map (Node.replace points value)
  else append name value (nodes.map (Node.vacate points))

end CommandDocs.Toml.Layout

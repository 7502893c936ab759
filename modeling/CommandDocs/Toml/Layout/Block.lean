import CommandDocs.Toml.Layout.Line

/-!
# Tables and what they hold

A header opens a table, which the lines up to the next header belong to. Headers of longer keys
that start with the key of a table, as far as they follow it, open tables within that table.
-/

namespace CommandDocs.Toml.Layout

/-- A header with the nodes of the lines that follow it. -/
structure Block where
  indent : List Char
  array : Bool
  key : List Part
  tail : List Char
  nodes : List Node

namespace Block

/-- What the parts of the key name. -/
def path (b : Block) : List (List Nat) :=
  b.key.map Part.name

/-- Whether a block opens a table within the table of another one. -/
def isBelow (b outer : Block) : Bool :=
  outer.path.isPrefixOf b.path && outer.key.length < b.key.length

end Block

/-- The nodes before the first header, and the blocks of the headers. -/
def blocksOf : List Line → List Node × List Block
  | [] => ([], [])
  | .node node :: rest =>
      let (nodes, blocks) := blocksOf rest
      (node :: nodes, blocks)
  | .header indent array key tail :: rest =>
      let (nodes, blocks) := blocksOf rest
      ([], ⟨indent, array, key, tail, nodes⟩ :: blocks)

/-- The node of a table with a header, given the parts of its key that lead to it from the table
around it. Every part but the last leads through a table; the first of these is not indented. -/
def headedNode (b : Block) (body : List Node) (indent : List Char) : List Part → Node
  | [] => .space []
  | [part] =>
      let table : Node := .table part b.indent (.header (spellingOf b.key) b.tail) body
      if b.array then .tables part [table] else table
  | part :: rest => .table part indent .implied [headedNode b body b.indent rest]

/-- The node of a table with a header as it stands in the table around it, given the path of the
array that the header may name again. -/
def blockNode (b : Block) (array : List (List Nat)) (body : List Node) (parts : List Part) : Node :=
  match headedNode b body [] parts with
  | .table part indent .implied within =>
      if array == [part.name] then .table part indent (.again b.array b.tail) within
      else .table part indent .implied within
  | node => node

/-- Adds the tables of some blocks to the nodes of the table around them, whose key has `depth`
parts; at the top of a document it has none. There the path is that of the array whose item comes
just before, and within an item, but the first one of its array, that of its array. -/
def addBlocks? (depth : Nat) (array : List (List Nat)) (nodes : List Node) (blocks : List Block) :
    Option (List Node) :=
  match blocks with
  | [] => some nodes
  | b :: rest =>
      let top := depth == 0
      match joinEntries? [] b.nodes with
      | none => none
      | some entries =>
          let within := if top && b.path != array then [] else array
          match addBlocks? b.key.length within entries (rest.takeWhile (·.isBelow b)) with
          | none => none
          | some body =>
              let parts := b.key.drop depth
              let node := blockNode b (if top then [] else array) body parts
              match join? (if top then .top else .inside) nodes node with
              | none => none
              | some grown =>
                  let next := if !top then array else if b.array then b.path else []
                  addBlocks? depth next grown (rest.dropWhile (·.isBelow b))
termination_by blocks.length
decreasing_by
  · exact Nat.lt_succ_of_le (List.takeWhile_sublist _).length_le
  · exact Nat.lt_succ_of_le (length_dropWhile_le _ _)

def readNodes? (s : List Char) : Option (List Node) := do
  let lines ← linesOf? (readFuel s) s
  let (nodes, blocks) := blocksOf lines
  addBlocks? 0 [] (← joinEntries? [] nodes) blocks

end CommandDocs.Toml.Layout

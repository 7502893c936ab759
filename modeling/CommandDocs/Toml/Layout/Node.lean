import CommandDocs.Text.Blank

/-!
# Documents that keep their layout

A document is a list of nodes: white space, remarks, entries, tables and arrays of tables. What
belongs to a table stands in the table, wherever it is written in the document; a node that comes
later joins the one that it adds to. Everything keeps the text that it is written with.
-/

namespace CommandDocs.Toml.Layout

/-- One part of a key: the code points of what it names, and its spelling with the gaps around
it. -/
structure Part where
  name : List Nat
  spelling : List Char
  deriving DecidableEq, Repr

/-- How a table comes about: by dots in the key of an entry, by the header of a table within it,
or by its own header with the rest of the line. A header within an item of an array, but not within
the first one, can name the array again; it then makes a header for the table, or for the item of
an array, that it leads through. -/
inductive Origin where
  | dotted
  | implied
  | header (title tail : List Char)
  | again (array : Bool) (tail : List Char)
  deriving DecidableEq, Repr

def Origin.isHeader : Origin → Bool
  | .header _ _ => true
  | .again _ _ => true
  | _ => false

/-- Whether a table is an item of an array, though no header of its own has opened it. -/
def Origin.isItem : Origin → Bool
  | .again array _ => array
  | _ => false

/-- A piece of a document. The text of an entry is kept in three pieces: what stands before its
value, the value, and the rest of its line. The items of an array are tables. -/
inductive Node where
  | space (text : List Char)
  | remark (text : List Char)
  | entry (part : Part) (lead value tail : List Char)
  | table (part : Part) (indent : List Char) (origin : Origin) (body : List Node)
  | tables (part : Part) (items : List Node)
  deriving Repr

namespace Node

def name? : Node → Option (List Nat)
  | .space _ => none
  | .remark _ => none
  | .entry part _ _ _ => some part.name
  | .table part _ _ _ => some part.name
  | .tables part _ => some part.name

def isTable : Node → Bool
  | .table _ _ _ _ => true
  | _ => false

/-- Whether a node is a table that dots have made. -/
def isDotted : Node → Bool
  | .table _ _ .dotted _ => true
  | _ => false

/-- Whether a node is a table or an array of tables that headers have made. -/
def opensLine : Node → Bool
  | .table _ _ origin _ => origin != .dotted
  | .tables _ _ => true
  | _ => false

/-- What stands in a table. -/
def body : Node → List Node
  | .table _ _ _ nodes => nodes
  | _ => []

end Node

def lastNamed? (name : List Nat) : List Node → Option (List Node × Node × List Node)
  | [] => none
  | node :: rest =>
      match lastNamed? name rest with
      | some (before, found, after) => some (node :: before, found, after)
      | none => if node.name? == some name then some ([], node, rest) else none

def lastTable? (nodes : List Node) : Option (List Nat) :=
  (nodes.reverse.find? Node.isTable).bind Node.name?

def named (name : List Nat) (nodes : List Node) : List Node :=
  nodes.filter fun node => node.name? == some name

/-- The first run of spaces in the indentation of a table. -/
def spacesOf (indent : List Char) : List Char :=
  (indent.dropWhile (· != ' ')).takeWhile (· == ' ')

/-- An indentation with spaces put before its own first space. -/
def deepen (spaces indent : List Char) : List Char :=
  indent.takeWhile (· != ' ') ++ spaces ++ indent.dropWhile (· != ' ')

/-- Some nodes in which the node with a name, if it is a table, is indented further. A table that
is written in several places has no indentation of its own. -/
def deepenAt? (spaces : List Char) (name : List Nat) (nodes : List Node) : Option (List Node) :=
  if spaces.isEmpty then some nodes
  else
    match lastNamed? name nodes with
    | some (before, .table part indent origin body, after) =>
        if (named name before).isEmpty then
          some (before ++ .table part (deepen spaces indent) origin body :: after)
        else none
    | _ => some nodes

/-- Where nodes are joined: within a table, at the top of a document, or on trial. A table may be
written in several places. Within a table all these places have to agree, at the top of a document
those without a header, and on trial they are not looked at. -/
inductive Site where
  | inside
  | top
  | trial
  deriving DecidableEq, Repr

/-- More than the depth of any document: a header has at most a hundred parts, and so has the key
of an entry. -/
def joinFuel : Nat := 500

mutual

/-- Adds a node to the nodes that are there. An entry or a table cannot be defined twice, but a
table may be led through before and after it is defined. What leads through an array adds to its
last item. The fuel bounds the depth. -/
def joinWith? : Nat → Site → List Node → Node → Option (List Node)
  | 0, _, _, _ => none
  | fuel + 1, site, nodes, node =>
      let apart := nodes ++ [node]
      match node with
      | .space _ => some apart
      | .remark _ => some apart
      | .entry part _ _ _ =>
          match lastNamed? part.name nodes with
          | none => some apart
          | some _ => none
      | .tables part items =>
          match lastNamed? part.name nodes with
          | none => some apart
          | some (before, .tables first others, after) =>
              some (before ++ .tables first (others ++ items) :: after)
          | some _ => none
      | .table part _ origin body =>
          match lastNamed? part.name nodes with
          | none => some apart
          | some (before, .table first margin old within, after) =>
              if origin.isItem then
                if old == .dotted then none
                else
                  some (before ++ .tables part [.table first margin old within, node] :: after)
              else if origin.isHeader && old != .implied then none
              else if origin.isHeader || old.isHeader then
                if site == .inside then agreeing? fuel part.name apart else some apart
              else if origin == .dotted || old == .dotted || lastTable? nodes != some part.name then
                if site == .trial then some apart else agreeing? fuel part.name apart
              else
                (joinAll? fuel (spacesOf margin) within body).bind fun merged =>
                  let together := before ++ .table first margin old merged :: after
                  if site == .inside then agreeing? fuel part.name together else some together
          | some (before, .tables first items, after) =>
              if origin.isItem then some (before ++ .tables first (items ++ [node]) :: after)
              else if origin.isHeader then none
              else
                match items.getLast? with
                | some (.table item margin old within) =>
                    (joinAll? fuel (spacesOf margin) within body).map fun grown =>
                      before ++
                        .tables first (items.dropLast ++ [.table item margin old grown]) :: after
                | _ => none
          | some _ => none

/-- Adds some nodes to those of a table. They take over the spaces that indent the table. -/
def joinAll? : Nat → (spaces : List Char) → List Node → List Node → Option (List Node)
  | 0, _, _, _ => none
  | fuel + 1, spaces, nodes, others =>
      others.foldlM
        (fun grown node =>
          match joinWith? fuel .top grown node, node.name? with
          | some next, some name => deepenAt? spaces name next
          | next, _ => next)
        nodes

/-- Whether some tables can be seen as one: whether their nodes can be joined, and what is then
still written in several places can be seen as one in turn. -/
def agree : Nat → List Node → Bool
  | 0, _ => false
  | fuel + 1, group =>
      match (group.flatMap Node.body).foldlM (joinWith? fuel .trial) [] with
      | none => false
      | some nodes =>
          (nodes.filterMap Node.name?).eraseDups.all fun name =>
            match named name nodes with
            | [_] => true
            | same => agree fuel same

/-- Some nodes, if those with a name can be seen as one. -/
def agreeing? : Nat → (name : List Nat) → List Node → Option (List Node)
  | 0, _, _ => none
  | fuel + 1, name, nodes =>
      match named name nodes with
      | _ :: _ :: _ => if agree fuel (named name nodes) then some nodes else none
      | _ => some nodes

end

/-- Adds a node to the nodes of a table, or to those at the top of a document. -/
def join? (site : Site) (nodes : List Node) (node : Node) : Option (List Node) :=
  joinWith? joinFuel site nodes node

/-- Adds an entry, or the table that the dots in its key make, to the nodes that are there. Only
tables that dots have made can be added to. -/
def joinOne? (nodes : List Node) (node : Node) : Option (List Node) :=
  match node.name? with
  | none => some (nodes ++ [node])
  | some name =>
      match lastNamed? name nodes with
      | none => some (nodes ++ [node])
      | some (_, found, _) =>
          if found.isDotted && node.isDotted then some (nodes ++ [node]) else none

/-- Adds entries with the white space and the remarks between them. -/
def joinEntries? (nodes : List Node) : List Node → Option (List Node)
  | [] =>
      let names := (nodes.filter Node.isDotted).filterMap Node.name?
      names.eraseDups.foldlM (fun checked name => agreeing? joinFuel name checked) nodes
  | node :: rest => (joinOne? nodes node).bind fun grown => joinEntries? grown rest

end CommandDocs.Toml.Layout

import CommandDocs.Toml.Collections

/-!
# Documents

A document is a sequence of items, one on a line: entries, and the headers of tables. Lines
without an item may hold white space and a comment.
-/

namespace CommandDocs.Toml

inductive Item where
  | entry (key : List String) (content : Value)
  | header (array : Bool) (key : List String)
  deriving Repr

/-- The rest of a text after its first line; the line may hold white space and a comment. -/
def afterLine (s : List Char) : Except Fault (List Char) :=
  match s.dropWhile Text.isGap with
  | [] => .ok []
  | '\n' :: rest => .ok rest
  | '#' :: rest =>
      if (rest.takeWhile (· != '\n')).any isIllegal then misfit
      else .ok ((rest.dropWhile (· != '\n')).drop 1)
  | _ => misfit

/-- The header of a table that opens a text. -/
def readHeader (s : List Char) : Read (Bool × List String) :=
  match s with
  | '[' :: '[' :: rest =>
      match readKey (rest.length + 1) (rest.dropWhile Text.isGap) with
      | .ok (key, ']' :: ']' :: after) => .ok ((true, key), after)
      | .ok _ => misfit
      | .error fault => .error fault
  | '[' :: rest =>
      match readKey (rest.length + 1) (rest.dropWhile Text.isGap) with
      | .ok (key, ']' :: after) => .ok ((false, key), after)
      | .ok _ => misfit
      | .error fault => .error fault
  | _ => misfit

/-- The entry that opens a text after white space. -/
def readEntry (s : List Char) : Read Item :=
  match readKey (s.length + 1) s with
  | .error fault => .error fault
  | .ok (key, '=' :: rest) =>
      let start := rest.dropWhile Text.isGap
      match readValue (2 * start.length + 2) start with
      | .error fault => .error fault
      | .ok (content, more) => (afterLine more).map fun after => (.entry key content, after)
  | .ok _ => misfit

/-- The item on the first line of a text, if there is one, and the text after that line. -/
def readItem (s : List Char) : Read (Option Item) :=
  match s.dropWhile Text.isGap with
  | [] => .ok (none, [])
  | '\n' :: rest => .ok (none, rest)
  | '#' :: rest => (afterLine ('#' :: rest)).map fun after => (none, after)
  | '[' :: rest =>
      match readHeader ('[' :: rest) with
      | .error fault => .error fault
      | .ok ((array, key), more) =>
          (afterLine more).map fun after => (some (.header array key), after)
  | start => (readEntry start).map fun (item, after) => (some item, after)

/-- The items of a text as far as it can be read, and the fault that stops the reading, if there
is one. -/
def itemsOf : Nat → List Char → List Item × Option Fault
  | 0, _ => ([], none)
  | _, [] => ([], none)
  | fuel + 1, s =>
      match readItem s with
      | .error fault => ([], some fault)
      | .ok (item, rest) =>
          let (items, fault) := itemsOf fuel rest
          (item.toList ++ items, fault)

/-- What the items read so far define. -/
structure Content where
  root : Table := []
  here : List String := []
  explicit : List (List String) := []
  closed : List (List String) := []
  pending : List (List String) := []

namespace Content

/-- The paths of the tables that a key leads through, below the table at `path`. -/
def between (path : List String) : List String → List (List String)
  | [] => []
  | [_] => []
  | part :: rest => (path ++ [part]) :: between (path ++ [part]) rest

/-- Opens a table. A table can be opened once, and not where a value or a closed collection
stands. -/
def openTable? (c : Content) (key : List String) : Option Content :=
  let explicit := c.pending ++ c.explicit
  if explicit.contains key || isBelow c.closed key then none
  else (changeAt? true some key c.root).map fun root =>
    { c with root, here := key, explicit := key :: explicit, pending := [] }

/-- Opens a further table of an array of tables. What was said about its predecessor counts no
longer. -/
def openItem? (c : Content) (key : List String) : Option Content :=
  let explicit := c.pending ++ c.explicit
  if isBelow c.closed key then none
  else
    let (path, last) := splitLast key
    (changeAt? true (extend? last) path c.root).map fun root =>
      { root, here := key, pending := [],
        explicit := key :: explicit.filter fun p => !key.isPrefixOf p
        closed := c.closed.filter fun p => !key.isPrefixOf p }

/-- Adds an entry to the table that is open. Tables that were opened by a header cannot be led
through, and those that are led through here cannot be opened later. -/
def addEntry? (c : Content) (key : List String) (value : Value) : Option Content :=
  let through := between c.here key
  let (parent, last) := splitLast key
  let path := c.here ++ parent
  if through.any c.explicit.contains || isBelow c.closed path then none
  else (changeAt? true (define? last value) path c.root).map fun root =>
    { c with
      root
      pending := through ++ c.pending
      closed := if Inline.isCollection value then (c.here ++ key) :: c.closed else c.closed }

def add? (c : Content) : Item → Option Content
  | .entry key content => c.addEntry? key content
  | .header false key => c.openTable? key
  | .header true key => c.openItem? key

/-- Adds what some items define, one after the other. -/
def addAll (c : Content) : List Item → Except Fault Content
  | [] => .ok c
  | item :: rest =>
      match c.add? item with
      | some next => next.addAll rest
      | none => misfit

end Content

/-- The table that a document defines. -/
def readDocument (s : List Char) : Except Fault Table :=
  let (items, fault) := itemsOf s.length s
  match ({} : Content).addAll items with
  | .error conflict => .error conflict
  | .ok content =>
      match fault with
      | some stop => .error stop
      | none => .ok content.root

/-- The table that a settings text defines; carriage returns before line feeds count for nothing.
Values are read however deep they are nested: there is no limit to the recursion. -/
def readTable (s : String) : Except Fault Table :=
  readDocument (Text.dropReturns s.toList)

end CommandDocs.Toml

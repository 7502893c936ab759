import CommandDocs.Toml.Value

/-!
# Tables within tables

A key of several parts leads through tables that are made on the way. On the way through an array
of tables its last table counts.
-/

namespace CommandDocs.Toml

/-- The value of a key in a table. -/
def find? (key : String) : Table → Option Value
  | [] => none
  | (k, value) :: rest => if k == key then some value else find? key rest

/-- A table with the value of a key replaced or, at the end, added. -/
def assign (key : String) (value : Value) : Table → Table
  | [] => [(key, value)]
  | (k, old) :: rest => if k == key then (k, value) :: rest else (k, old) :: assign key value rest

def changeLast? (change : Table → Option Table) : List Value → Option (List Value)
  | [] => none
  | [.table entries] => (change entries).map fun changed => [.table changed]
  | [_] => none
  | item :: rest => (changeLast? change rest).map (item :: ·)

/-- Changes the table that a path leads to. Missing tables are made; a path through anything but
tables, and the last tables of arrays where these are open, leads nowhere. -/
def changeAt? (open? : Bool) (change : Table → Option Table) :
    List String → Table → Option Table
  | [], t => change t
  | key :: path, t =>
      match find? key t with
      | none => (changeAt? open? change path []).map fun inner => assign key (.table inner) t
      | some (.table entries) =>
          (changeAt? open? change path entries).map fun inner => assign key (.table inner) t
      | some (.array items) =>
          if open? then
            (changeLast? (changeAt? open? change path) items).map fun changed =>
              assign key (.array changed) t
          else none
      | some _ => none

/-- Adds a value to a table under a key that is still free. -/
def define? (key : String) (value : Value) (t : Table) : Option Table :=
  match find? key t with
  | some _ => none
  | none => some (assign key value t)

/-- Adds an empty table to the array under a key; a free key gets an array of one. -/
def extend? (key : String) (t : Table) : Option Table :=
  match find? key t with
  | none => some (assign key (.array [.table []]) t)
  | some (.array items) => some (assign key (.array (items ++ [.table []])) t)
  | some _ => none

/-- A path without its last part, and that part. -/
def splitLast : List String → List String × String
  | [] => ([], "")
  | [last] => ([], last)
  | part :: rest =>
      let (before, last) := splitLast rest
      (part :: before, last)

/-- Whether a path or one above it is on a list. -/
def isBelow (paths : List (List String)) (path : List String) : Bool :=
  paths.any fun p => p.isPrefixOf path

end CommandDocs.Toml

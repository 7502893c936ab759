import CommandDocs.Files.Store
import CommandDocs.Text.Pattern

/-!
# Searching by pattern

A search pattern is a path whose parts are names, wildcard patterns, or double stars. A double
star stands for any number of directories and has to be a whole part.
-/

namespace CommandDocs.Files

inductive SearchPart where
  | name (part : String)
  | wildcard (pattern : String)
  | anyDepth
  deriving DecidableEq, Repr

/-- A search pattern; it may ask for directories alone. -/
structure SearchPattern where
  parts : List SearchPart
  directoriesOnly : Bool
  deriving DecidableEq, Repr

namespace SearchPattern

/-- Whether a text holds two stars in a row. -/
def hasDoubleStar : List Char → Bool
  | '*' :: '*' :: _ => true
  | _ :: rest => hasDoubleStar rest
  | [] => false

/-- Reads one part; a double star beside other characters is refused. -/
def partOf? (part : String) : Option SearchPart :=
  if part == "**" then some .anyDepth
  else if hasDoubleStar part.toList then none
  else if Text.isWildcard part.toList then some (.wildcard part)
  else some (.name part)

def ofText? (s : String) : Option SearchPattern := do
  let parts ← (Path.partsOf s.toList).mapM partOf?
  return ⟨parts, s.toList.getLast? == some '/'⟩

end SearchPattern

namespace Store

def directoryNames (s : Store) (location : Location) : List String :=
  (s.names location).filter fun name => s.at? (location ++ [name]) == some .directory

def directoriesBelow (s : Store) : Nat → Location → Path → List (Location × Path)
  | 0, location, p => [(location, p)]
  | depth + 1, location, p =>
      (location, p) :: (s.directoryNames location).flatMap fun name =>
        directoriesBelow s depth (location ++ [name]) ⟨p.start, p.parts ++ [name]⟩

/-- The first occurrence of each path. -/
def distinct (paths : List Path) : List Path :=
  paths.foldl (fun seen p => if seen.contains p then seen else seen ++ [p]) []

/-- The paths below a path that fit a search pattern. Only names that are given outright are
looked up, so only they can be too long. -/
def searchFrom (s : Store) (here : Location) (directoriesOnly : Bool) :
    Path → List SearchPart → Except Fault (List Path)
  | p, [] => .ok [p]
  | p, .name part :: rest => do
      let next : Path := ⟨p.start, p.parts ++ [part]⟩
      let goes ←
        if rest.isEmpty && !directoriesOnly then s.exists? here next else s.isDirectory here next
      if goes then searchFrom s here directoriesOnly next rest else return []
  | p, .wildcard pattern :: rest => do
      let location ← (s.locate here p).mapError fun cause => ⟨cause, p.text⟩
      let names := if rest.isEmpty && !directoriesOnly then s.names location
        else s.directoryNames location
      let found ← (names.filter fun name => Text.matchesPattern pattern.toList name.toList).mapM
        fun name => searchFrom s here directoriesOnly ⟨p.start, p.parts ++ [name]⟩ rest
      return found.flatten
  | p, .anyDepth :: rest => do
      let location ← (s.locate here p).mapError fun cause => ⟨cause, p.text⟩
      let found ← (s.directoriesBelow s.entries.length location p).mapM
        fun below => searchFrom s here directoriesOnly below.2 rest
      return distinct found.flatten

/-- The paths below a directory that fit a search pattern; a path that is no directory has
none. -/
def search (s : Store) (here : Location) (dir : Path) (pattern : SearchPattern) :
    Except Fault (List Path) := do
  if ← s.isDirectory here dir then searchFrom s here pattern.directoriesOnly dir pattern.parts
  else return []

end Store

end CommandDocs.Files

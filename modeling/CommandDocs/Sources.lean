import CommandDocs.Files.Search
import CommandDocs.Text.Fold
import CommandDocs.Workspace

/-!
# Source files

The sources of a module are the files of a directory with the extension of scripts, in the order
of a listing that ignores case. Some can be excluded by a pattern on their names.
-/

namespace CommandDocs

open Files (Path)

variable {η : Type}

/-- Which files of a directory are sources. -/
structure Selection where
  exclude : Option String := none
  scriptExtension : String := "ps1"
  deriving DecidableEq, Repr

namespace Selection

/-- The search pattern for the scripts. -/
def pattern? (selection : Selection) : Option Files.SearchPattern :=
  Files.SearchPattern.ofText? ("*." ++ selection.scriptExtension)

/-- Whether a name is excluded; an empty pattern excludes nothing. -/
def excludes (selection : Selection) (name : String) : Bool :=
  match selection.exclude with
  | none => false
  | some pattern => pattern != "" && Text.matchesPattern pattern.toList name.toList

end Selection

/-- The order of a listing: by name, ignoring case first. -/
def listingOrder (p q : Path) : Bool :=
  Text.listingLe p.name.toList q.name.toList

/-- Those of some paths that are files and not excluded. -/
def selectFiles (selection : Selection) : List Path → Act η (List Path)
  | [] => return []
  | p :: rest => do
      if ← Act.isFile p then
        if selection.excludes p.name then
          Act.note .debug ("Excluding " ++ p.name)
          selectFiles selection rest
        else return p :: (← selectFiles selection rest)
      else selectFiles selection rest

/-- The sources in a directory, in listing order. -/
def listSources (dir : Path) (selection : Selection) : Act η (List Path) := do
  match selection.pattern? with
  | none => throw .badPattern
  | some pattern =>
      let found ← Act.inspect fun store here => store.search here dir pattern
      selectFiles selection (found.mergeSort listingOrder)

end CommandDocs

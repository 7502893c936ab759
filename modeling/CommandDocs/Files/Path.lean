import CommandDocs.Text.Line

/-!
# Paths

A path is a start and a list of parts. Empty parts and single dots vanish; two dots stay. The
path without start and parts is written as a dot.
-/

namespace CommandDocs.Files

/-- Where a path starts: at the working directory, or at the root; two leading slashes are kept
apart from one. -/
inductive Start where
  | here
  | root
  | doubleRoot
  deriving DecidableEq, Repr, Inhabited

structure Path where
  start : Start := .here
  parts : List String := []
  deriving DecidableEq, Repr, Inhabited

namespace Path

/-- The start that a text shows by its leading slashes. -/
def startOf : List Char → Start
  | '/' :: '/' :: '/' :: _ => .root
  | '/' :: '/' :: _ => .doubleRoot
  | '/' :: _ => .root
  | _ => .here

def partsOf (s : List Char) : List String :=
  ((Text.splitAt '/' s).filter fun part => part != [] && part != ['.']).map String.ofList

/-- Reads a path. -/
def ofText (s : String) : Path :=
  ⟨startOf s.toList, partsOf s.toList⟩

def startText : Start → String
  | .here => ""
  | .root => "/"
  | .doubleRoot => "//"

/-- Writes a path. -/
def text (p : Path) : String :=
  if p.start == .here && p.parts.isEmpty then "."
  else startText p.start ++ "/".intercalate p.parts

/-- The path of something below a directory; a path that starts at the root stands alone. -/
def join (dir : Path) (below : Path) : Path :=
  match below.start with
  | .here => ⟨dir.start, dir.parts ++ below.parts⟩
  | _ => below

/-- The path of a file name below a directory. -/
def child (dir : Path) (name : String) : Path :=
  dir.join (ofText name)

/-- The last part; a path without parts has the empty name. -/
def name (p : Path) : String :=
  p.parts.getLast?.getD ""

def parent (p : Path) : Path :=
  ⟨p.start, p.parts.dropLast⟩

/-- A name without its extension: what stands before the last dot, unless that dot is the first
or the last character. -/
def stem (name : List Char) : List Char :=
  let after := name.reverse.takeWhile (· != '.')
  let before := (name.reverse.drop (after.length + 1)).reverse
  if after.length < name.length && !after.isEmpty && !before.isEmpty then before else name

/-- The path with the extension of its last part replaced; a path without a name has none. -/
def withExtension? (p : Path) (extension : String) : Option Path :=
  match p.parts.getLast? with
  | none => none
  | some last =>
      some ⟨p.start, p.parts.dropLast ++ [String.ofList (stem last.toList) ++ extension]⟩

end Path

end CommandDocs.Files

import CommandDocs.Files.Path
import CommandDocs.Text.Quoted

/-!
# The file store

The store maps locations to files and directories. A path is followed part by part from the
working directory or the root, and every part before the last has to be a directory.
-/

namespace CommandDocs.Files

abbrev Bytes := List UInt8

/-- The names from the root down to an entry. -/
abbrev Location := List String

inductive Entry where
  | directory
  | file (bytes : Bytes)
  deriving DecidableEq, Repr

/-- Why an operation on a path fails. -/
inductive Cause where
  | missing
  | exists
  | notDirectory
  | isDirectory
  | nameTooLong
  | nullByte
  deriving DecidableEq, Repr

/-- A failed operation with the path it was asked for. -/
structure Fault where
  cause : Cause
  path : String
  deriving DecidableEq, Repr

namespace Fault

/-- The number and the words of a cause. -/
def describe : Cause → Nat × String
  | .missing => (2, "No such file or directory")
  | .exists => (17, "File exists")
  | .notDirectory => (20, "Not a directory")
  | .isDirectory => (21, "Is a directory")
  | .nameTooLong => (36, "File name too long")
  | .nullByte => (0, "embedded null byte")

/-- The text of a failed operation. -/
def message (fault : Fault) : String :=
  let (number, words) := describe fault.cause
  if fault.cause == .nullByte then words
  else "[Errno " ++ toString number ++ "] " ++ words ++ ": " ++ Text.Quoted.quoteString fault.path

/-- Whether the operating system refused the operation; a path that holds a null byte never
reaches it. -/
def isRefusal (fault : Fault) : Bool :=
  fault.cause != .nullByte

end Fault

/-- Entries in the order of their creation; the root is always a directory. -/
structure Store where
  entries : List (Location × Entry) := []
  deriving DecidableEq, Repr

namespace Store

/-- What stands at a location. -/
def at? (s : Store) : Location → Option Entry
  | [] => some .directory
  | location => (s.entries.find? fun entry => entry.1 == location).map (·.2)

def put (s : Store) (location : Location) (entry : Entry) : Store :=
  if s.entries.any fun e => e.1 == location then
    ⟨s.entries.map fun e => if e.1 == location then (location, entry) else e⟩
  else ⟨s.entries ++ [(location, entry)]⟩

/-- Removes the entry at a location. -/
def erase (s : Store) (location : Location) : Store :=
  ⟨s.entries.filter fun e => e.1 != location⟩

/-- The names in a directory. -/
def names (s : Store) (location : Location) : List String :=
  s.entries.filterMap fun e =>
    if e.1.dropLast == location then e.1.getLast? else none

/-- The longest name of an entry, in bytes. -/
def nameLimit : Nat := 255

/-- The longest path, in bytes. -/
def pathLimit : Nat := 4095

/-- Follows the parts of a path. An empty part and a single dot stay where they are. -/
def walk (s : Store) : Location → List String → Except Cause Location
  | here, [] => .ok here
  | here, part :: rest =>
      match s.at? here with
      | none => .error .missing
      | some (.file _) => .error .notDirectory
      | some .directory =>
          if part == "" || part == "." then walk s here rest
          else if part == ".." then walk s here.dropLast rest
          else if part.utf8ByteSize > nameLimit then .error .nameTooLong
          else walk s (here ++ [part]) rest

/-- The location of a path. -/
def locate (s : Store) (cwd : Location) (p : Path) : Except Cause Location :=
  if p.parts.any fun part => part.contains '\x00' then .error .nullByte
  else if p.text.utf8ByteSize > pathLimit then .error .nameTooLong
  else s.walk (if p.start == .here then cwd else []) p.parts

/-- The entry at a path. -/
def look (s : Store) (cwd : Location) (p : Path) : Except Cause Entry := do
  let location ← s.locate cwd p
  match s.at? location with
  | some entry => .ok entry
  | none => .error .missing

/-- The entry that a text leads to when it is followed as it is written: the empty text leads
nowhere, and a slash at the end asks for a directory. -/
def lookText (s : Store) (cwd : Location) (text : String) : Except Cause Entry :=
  if text.contains '\x00' then .error .nullByte
  else if text == "" then .error .missing
  else if text.utf8ByteSize > pathLimit then .error .nameTooLong
  else do
    let parts := (Text.splitAt '/' text.toList).map String.ofList
    let location ← s.walk (if text.startsWith "/" then [] else cwd) parts
    match s.at? location with
    | some entry => .ok entry
    | none => .error .missing

/-- Asks for the entry at a path. Only a path that is too long is refused; any other path that
leads nowhere has no entry. -/
def probe (s : Store) (cwd : Location) (p : Path) : Except Fault (Option Entry) :=
  match s.look cwd p with
  | .ok entry => .ok (some entry)
  | .error .nameTooLong => .error ⟨.nameTooLong, p.text⟩
  | .error _ => .ok none

/-- Whether there is anything at a path. -/
def exists? (s : Store) (cwd : Location) (p : Path) : Except Fault Bool :=
  (s.probe cwd p).map (·.isSome)

/-- Whether there is a directory at a path. -/
def isDirectory (s : Store) (cwd : Location) (p : Path) : Except Fault Bool :=
  (s.probe cwd p).map fun entry => entry == some .directory

def isFile (s : Store) (cwd : Location) (p : Path) : Except Fault Bool :=
  (s.probe cwd p).map fun entry => match entry with
    | some (.file _) => true
    | _ => false

/-- The bytes of the file at a path. -/
def read (s : Store) (cwd : Location) (p : Path) : Except Fault Bytes :=
  match s.look cwd p with
  | .ok (.file bytes) => .ok bytes
  | .ok .directory => .error ⟨.isDirectory, p.text⟩
  | .error cause => .error ⟨cause, p.text⟩

/-- Writes a file at a path: a new one or over an old one. -/
def write (s : Store) (cwd : Location) (p : Path) (bytes : Bytes) : Except Fault Store :=
  match s.locate cwd p with
  | .error cause => .error ⟨cause, p.text⟩
  | .ok location =>
      match s.at? location with
      | some .directory => .error ⟨.isDirectory, p.text⟩
      | _ => .ok (s.put location (.file bytes))

/-- Removes the file at a path. -/
def unlink (s : Store) (cwd : Location) (p : Path) : Except Fault Store :=
  match s.locate cwd p with
  | .error cause => .error ⟨cause, p.text⟩
  | .ok location =>
      match s.at? location with
      | some (.file _) => .ok (s.erase location)
      | some .directory => .error ⟨.isDirectory, p.text⟩
      | none => .error ⟨.missing, p.text⟩

def makeOne (s : Store) (cwd : Location) (p : Path) : Except Fault Store :=
  match s.locate cwd p with
  | .error cause => .error ⟨cause, p.text⟩
  | .ok location =>
      match s.at? location with
      | some _ => .error ⟨.exists, p.text⟩
      | none => .ok (s.put location .directory)

def makeUnless (s : Store) (cwd : Location) (p : Path) : Except Fault Store :=
  match s.makeOne cwd p with
  | .ok made => .ok made
  | .error fault =>
      if fault.cause == .missing || !fault.isRefusal then .error fault
      else do
        if ← s.isDirectory cwd p then .ok s else .error fault

/-- Makes a directory and the missing directories above it, given its parts from the last to the
first. A directory made on the way stays even when a later one cannot be made. -/
def makeParents (s : Store) (cwd : Location) (start : Start) :
    List String → Store × Option Fault
  | [] =>
      match s.makeUnless cwd ⟨start, []⟩ with
      | .ok made => (made, none)
      | .error fault => (s, some fault)
  | last :: above =>
      let p : Path := ⟨start, (last :: above).reverse⟩
      match s.makeUnless cwd p with
      | .ok made => (made, none)
      | .error ⟨.missing, _⟩ =>
          match makeParents s cwd start above with
          | (partly, some fault) => (partly, some fault)
          | (made, none) =>
              match made.makeUnless cwd p with
              | .ok complete => (complete, none)
              | .error fault => (made, some fault)
      | .error fault => (s, some fault)

/-- Makes a directory with all directories above it, unless it is there already. -/
def makeDirectories (s : Store) (cwd : Location) (p : Path) : Store × Option Fault :=
  s.makeParents cwd p.start p.parts.reverse

/-- Moves the file at one path to another, over a file that is there. -/
def rename (s : Store) (cwd : Location) (source target : Path) : Except Fault Store :=
  match s.read cwd source, s.locate cwd source, s.locate cwd target with
  | .ok bytes, .ok origin, .ok goal =>
      if s.at? goal == some .directory then .error ⟨.isDirectory, target.text⟩
      else if origin == goal then .ok s
      else .ok ((s.erase origin).put goal (.file bytes))
  | .error fault, _, _ => .error fault
  | _, .error cause, _ => .error ⟨cause, source.text⟩
  | _, _, .error cause => .error ⟨cause, target.text⟩

end Store

end CommandDocs.Files

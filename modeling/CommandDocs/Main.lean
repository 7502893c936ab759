import CommandDocs.CommandLine.Program
import CommandDocs.Files.Changes
import CommandDocs.Host.PowerShell

/-!
# The command line

The program is run on a picture of the real files: those below the working directory, those of the
settings directory in the home directory, and those below the paths that are named. What it
changes in the picture is then done to the files. No process is started from here, so every host
answers as one whose executable is missing.
-/

namespace CommandDocs.Main

open CommandDocs.CommandLine

def pathOf (location : Files.Location) : String :=
  "/" ++ "/".intercalate location

/-- The location that a path leads to from a working directory. -/
def locationOf (here : Files.Location) (path : String) : Files.Location :=
  let p := Files.Path.ofText path
  Settings.climb (if p.start == .here then here ++ p.parts else p.parts)

/-- The entries at a location and below it, down to a depth. What cannot be read is left out. -/
def entriesBelow : (depth : Nat) → Files.Location → IO (List (Files.Location × Files.Entry))
  | 0, _ => return []
  | depth + 1, location => do
      try
        let real ← IO.FS.realPath (pathOf location)
        if ← real.isDir then
          let inside ← (← real.readDir).toList.mapM fun entry =>
            entriesBelow depth (location ++ [entry.fileName])
          return (location, .directory) :: inside.flatten
        else
          return [(location, .file (← IO.FS.readBinFile (pathOf location)).toList)]
      catch _ => return []

def above (location : Files.Location) : List (Files.Location × Files.Entry) :=
  ((List.range location.length).drop 1).map fun n => (location.take n, .directory)

/-- The depth down to which directories are looked into. -/
def depthLimit : Nat := 64

def picture (locations : List Files.Location) : IO Files.Store := do
  let roots := locations.eraseDups.filter fun l =>
    !locations.any fun r => r != l && r.isPrefixOf l
  let found ← roots.mapM (entriesBelow depthLimit)
  let present := (roots.zip found).filter fun (_, entries) => !entries.isEmpty
  return ⟨(present.flatMap fun (root, _) => above root).eraseDups ++ found.flatten⟩

/-- Does a change to the real files. -/
def carryOut : Files.Location × Files.Change → IO Unit
  | (location, .made) => IO.FS.createDirAll (pathOf location)
  | (location, .wrote bytes) => IO.FS.writeBinFile (pathOf location) ⟨bytes.toArray⟩
  | (location, .erasedFile) => IO.FS.removeFile (pathOf location)
  | (location, .erasedDirectory) => IO.FS.removeDirAll (pathOf location)

/-- The host whose executable is never there. -/
def launcher : Launcher (Host.Shell Unit) where
  host := Host.powerShell fun _ state => (.missing, state)
  start executable timeout _ := { executable, timeout, runner := () }

def brokenText : Option (Failure ⊕ Console.Markup.Fault) → String
  | none => ""
  | some (.inl failure) => failure.message ++ "\n"
  | some (.inr fault) => fault.message ++ "\n"

/-- Runs the program on the real files. -/
def run (words : List String) : IO UInt32 := do
  let here := locationOf [] (← IO.currentDir).toString
  let home := locationOf [] ((← IO.getEnv "HOME").getD "/")
  let store ← picture
    (here :: (home ++ [".helpdoc"]) :: (words.filter (· != "")).map (locationOf here))
  let (answer, terminal) :=
    runProgram launcher words { store, here, home := { own := home }, host := { runner := () } }
  (Files.changes store terminal.work.store).forM carryOut
  IO.print answer.output
  IO.eprint (answer.errors ++ brokenText answer.broken)
  return answer.status.toUInt32

end CommandDocs.Main

def main (words : List String) : IO UInt32 :=
  CommandDocs.Main.run words

import CommandDocs.Help.Extract
import CommandDocs.Workspace

/-!
# Fetching help text

The host prints the help of a command to a temporary file, which is read and removed again
before anything else happens, whether or not the command could be read.
-/

namespace CommandDocs

open Files (Path Bytes)

variable {η : Type}

def helpTextOf (path : String) : Except Files.Fault Bytes → Except Failure String
  | .error fault =>
      .error (if fault.isRefusal then .unreadableHelp path fault else .file fault)
  | .ok bytes =>
      match Text.decodeDocument bytes with
      | .ok text => .ok text
      | .error fault => .error (.undecodableHelp path fault)

def readHelp (p : Path) : Act η String := do
  let w ← get
  Act.ofExcept (helpTextOf p.text (w.store.read w.here p))

namespace Temporary

/-- The path of the temporary file with a given number. -/
def path (number : Nat) : String :=
  "../tmp/helpdoc-" ++ toString number ++ ".txt"

/-- Makes the next temporary file, still empty. -/
def make : Act η Nat := do
  let number := (← get).made + 1
  modify fun w => { w with made := number }
  Act.trace (.opened number)
  return number

/-- Removes a temporary file that may be gone already. -/
def remove (number : Nat) : Act η Unit :=
  Act.trace (.closed number)

/-- Does to a temporary file what the host says it did. -/
def apply (number : Nat) : Host.HelpFile → Act η Unit
  | .untouched => return
  | .written bytes => Act.trace (.wrote number bytes)
  | .removed => Act.trace (.removed number)

def read (number : Nat) : Act η String := do
  let content := match (← get).temporary.lookup number with
    | some bytes => .ok bytes
    | none => .error ⟨.missing, path number⟩
  Act.ofExcept (helpTextOf (path number) content)

end Temporary

/-- The help text of a command, printed at a width. -/
def fetchHelp (host : Host η) (width : Int) (command : String) : Act η String := do
  let number ← Temporary.make
  let path := Temporary.path number
  Act.ensuring
    (do
      Temporary.apply number (← Act.ask (.writeHelp command path width)
        (host.writeHelp command path width))
      Temporary.read number)
    (do
      Temporary.remove number
      Act.note .debug ("Removed help extract for " ++ command))

def noteParameters (text : String) : Act η Unit :=
  match Help.parametersSection? (Help.linesOf text) with
  | none => return
  | some lines =>
      let count := (Help.readParameters lines).length
      Act.note .debug ("Extracted " ++ toString count ++ " parameter(s)")

/-- Everything that the help of a command says. -/
def fetchFields (host : Host η) (width : Int) (command : String) : Act η Help.Fields := do
  let text ← fetchHelp host width command
  noteParameters text
  match Help.extract text with
  | .ok fields => return fields
  | .error fault => throw (.number fault)

end CommandDocs

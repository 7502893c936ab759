import CommandDocs.Log
import CommandDocs.Text.Decoding
import CommandDocs.Text.Number

/-!
# The command host

A host answers questions about commands and modules and prints help texts to a file. It keeps a
state of its own and may log. What a host does to the help file is part of its answer.
-/

namespace CommandDocs

namespace Host

/-- Why a call to the host fails. The last five are no failures that the host reports about itself:
the system refused to start it, its own code broke, its output was no text, or a number could not be
written. -/
inductive Fault where
  | missingExecutable (executable : String)
  | timedOut (seconds : Int)
  | failed (detail : String)
  | reported (text : String)
  | denied (executable : String)
  | unstarted (text : String)
  | crashed (text : String)
  | garbled (fault : Text.DecodeFault)
  | number (fault : Text.NumberFault)
  deriving DecidableEq, Repr

namespace Fault

/-- Whether the failure is one that the host reports about itself. -/
def isHostError : Fault → Bool
  | .missingExecutable _ | .timedOut _ | .failed _ | .reported _ => true
  | .denied _ | .unstarted _ | .crashed _ | .garbled _ | .number _ => false

/-- The text of a failed call. -/
def message : Fault → String
  | .missingExecutable executable =>
      "PowerShell executable not found: " ++ executable ++
        "\nInstall PowerShell 7 or set pwsh_executable in the config file."
  | .timedOut seconds => "Host call timed out after " ++ toString seconds ++ "s"
  | .failed detail => "Host call failed: " ++ detail
  | .reported text => text
  | .denied executable => "[Errno 13] Permission denied: " ++ Text.Quoted.quoteString executable
  | .unstarted text => text
  | .crashed text => text
  | .garbled fault => fault.message
  | .number fault => fault.message

end Fault

inductive HelpFile where
  | untouched
  | written (bytes : List UInt8)
  | removed
  deriving DecidableEq, Repr

inductive Recorded where
  | commandExists (name : String)
  | moduleExists (name : String)
  | moduleCommands (module : String)
  | writeHelp (command path : String) (width : Int)
  | reloadModule (module path : String)
  deriving DecidableEq, Repr

/-- A host's state and the log. -/
structure Talk (η : Type) where
  state : η
  log : List Note

abbrev Call (η α : Type) := ExceptT Fault (StateM (Talk η)) α

/-- Appends a line to the log. -/
def note {η : Type} (level : Level) (text : String) : Call η Unit :=
  modify fun talk => { talk with log := talk.log ++ [⟨level, text⟩] }

end Host

/-- The questions that a host answers. -/
structure Host (η : Type) where
  commandExists : String → Host.Call η Bool
  moduleExists : String → Host.Call η Bool
  moduleCommands : String → Host.Call η (List String)
  writeHelp : (command path : String) → (width : Int) → Host.Call η Host.HelpFile
  reloadModule : (module path : String) → Host.Call η Unit

end CommandDocs

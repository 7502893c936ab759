import CommandDocs.Host.Interface
import CommandDocs.Settings.Fault

/-!
# Failures

Every way in which an activity can end without a result. Some failures are reports of this
library, others come through from below it; of the former, two kinds concern a single command
and leave the rest of a batch alone.
-/

namespace CommandDocs

inductive Failure where
  | sourceMissing (dir : String)
  | outputMissing (dir : String)
  | unknownName (name : String)
  | unknownModule (name : String)
  | unreadableHelp (path : String) (fault : Files.Fault)
  | undecodableHelp (path : String) (fault : Text.DecodeFault)
  | undecodableScript (path : String)
  | settings (fault : Settings.Fault)
  | host (fault : Host.Fault)
  | file (fault : Files.Fault)
  | decoding (fault : Text.DecodeFault)
  | number (fault : Text.NumberFault)
  | nameless (path : String)
  | noHome
  | badPattern
  deriving DecidableEq, Repr

namespace Failure

/-- The text of a failure. -/
def message : Failure → String
  | .sourceMissing dir => "Source directory not found: " ++ dir
  | .outputMissing dir => "Output directory not found: " ++ dir
  | .unknownName name => "No command or module named '" ++ name ++ "'"
  | .unknownModule name => "Module not found: " ++ name
  | .unreadableHelp path fault => "Cannot read help extract " ++ path ++ ": " ++ fault.message
  | .undecodableHelp path fault =>
      "Help extract " ++ path ++ " is not decodable text: " ++ fault.message
  | .undecodableScript path => "Script is not valid UTF-8: " ++ path
  | .settings fault => fault.message
  | .host fault => fault.message
  | .file fault => fault.message
  | .decoding fault => fault.message
  | .number fault => fault.message
  | .nameless path => "PosixPath(" ++ Text.Quoted.quoteString path ++ ") has an empty name"
  | .noHome => "Could not determine home directory."
  | .badPattern => "Invalid pattern: '**' can only be an entire path component"

/-- Whether a failure concerns one command alone: its help text could not be had from the host,
or is no text. -/
def isPerCommand : Failure → Bool
  | .unreadableHelp _ _ | .undecodableHelp _ _ | .undecodableScript _ => true
  | .host fault => fault.isHostError
  | _ => false

def isReport : Failure → Bool
  | .sourceMissing _ | .outputMissing _ | .unknownName _ | .unknownModule _ => true
  | .settings _ => true
  | failure => failure.isPerCommand

end Failure

end CommandDocs

import CommandDocs.Files.Store
import CommandDocs.Text.Decoding
import CommandDocs.Text.Number

/-!
# Faults of the settings

Why settings cannot be found, understood, read or saved.
-/

namespace CommandDocs.Settings

/-- What stops a settings file from being read or saved. -/
inductive Obstacle where
  | badSyntax
  | file (fault : Files.Fault)
  | decoding (fault : Text.DecodeFault)
  | number (fault : Text.NumberFault)
  deriving DecidableEq, Repr

/-- The words for an obstacle; those of bad syntax are left out. -/
def Obstacle.detail : Obstacle → String
  | .badSyntax => ""
  | .file fault => ": " ++ fault.message
  | .decoding fault => ": " ++ fault.message
  | .number fault => ": " ++ fault.message

inductive Fault where
  | notFound (path : String)
  | notStrings (key : String)
  | notInteger (key : String)
  | notString (key : String)
  | unreadableTemplate (which template : String) (fault : Files.Fault)
  | notLoaded (obstacle : Obstacle)
  | notSaved (obstacle : Obstacle)
  deriving DecidableEq, Repr

/-- The text of a fault. -/
def Fault.message : Fault → String
  | .notFound path => "Config file not found: " ++ path
  | .notStrings key => "Config key '" ++ key ++ "' must be a list of strings"
  | .notInteger key => "Config key '" ++ key ++ "' must be an integer"
  | .notString key => "Config key '" ++ key ++ "' must be a string"
  | .unreadableTemplate which template fault =>
      "Failed to read " ++ which ++ " template " ++ template ++ ": " ++ fault.message
  | .notLoaded obstacle => "Failed to load config" ++ obstacle.detail
  | .notSaved obstacle => "Failed to save config" ++ obstacle.detail

end CommandDocs.Settings

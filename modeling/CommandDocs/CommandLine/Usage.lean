import CommandDocs.CommandLine.Command
import CommandDocs.Console.Sequence
import CommandDocs.Text.Quoted
import CommandDocs.Text.Similar

/-!
# Wrong usage

Why the words of a command line cannot be followed, and what is said about it. Most reports show
first how the command is called; two kinds, about the value of an option, do not.
-/

namespace CommandDocs.CommandLine

/-- Why a value does not fit. -/
inductive Misfit where
  | fileForDirectory (path : String)
  | directoryForFile (path : String)
  | absentFile (path : String)
  | noChoice (word : String) (words : List String)
  deriving DecidableEq, Repr

/-- The words for a value that does not fit. -/
def Misfit.message : Misfit → String
  | .fileForDirectory path => "Directory " ++ Text.Quoted.quoteString path ++ " is a file."
  | .directoryForFile path => "File " ++ Text.Quoted.quoteString path ++ " is a directory."
  | .absentFile path => "File " ++ Text.Quoted.quoteString path ++ " does not exist."
  | .noChoice word words =>
      Text.Quoted.quoteString word ++ " is not one of " ++
        ", ".intercalate (words.map Text.Quoted.quoteString) ++ "."

inductive UsageFault where
  | unknownOption (name : String) (similar : List String)
  | valueNeeded (name : String)
  | valueUnwanted (name : String)
  | unknownCommand (name : String) (similar : List String)
  | commandNeeded
  | operandNeeded (name : String)
  | operandsUnwanted (words : List String)
  | badValue (name : String) (misfit : Misfit)
  | addressNeeded
  deriving DecidableEq, Repr

namespace UsageFault

/-- The order in which suggestions are listed. -/
def nameLe (x y : String) : Bool :=
  Text.codePointLe x.toList y.toList

def suggestion (similar : List String) : String :=
  match similar with
  | [] => ""
  | [only] => " Did you mean " ++ Text.Quoted.quoteString only ++ "?"
  | _ =>
      " (Did you mean one of: " ++
        ", ".intercalate ((similar.mergeSort nameLe).map Text.Quoted.quoteString) ++ "?)"

/-- The words for a fault. -/
def message : UsageFault → String
  | .unknownOption name similar =>
      "No such option " ++ Text.Quoted.quoteString name ++ "." ++ suggestion similar
  | .valueNeeded name => "Option " ++ Text.Quoted.quoteString name ++ " requires an argument."
  | .valueUnwanted name => "Option " ++ Text.Quoted.quoteString name ++ " does not take a value."
  | .unknownCommand name similar =>
      "No such command " ++ Text.Quoted.quoteString name ++ "." ++ suggestion similar
  | .commandNeeded => "Missing command."
  | .operandNeeded name => "Missing argument '" ++ name ++ "'."
  | .operandsUnwanted words =>
      "Got unexpected extra argument" ++ (if words.length = 1 then "" else "s") ++ " (" ++
        " ".intercalate words ++ ")"
  | .badValue name misfit => "Invalid value for '" ++ name ++ "': " ++ misfit.message
  | .addressNeeded => "Markdown summaries need --base-url or docs_base_url in the config file"

def showsUsage : UsageFault → Bool
  | .valueNeeded _ | .valueUnwanted _ => false
  | _ => true

def report (c : Command) (fault : UsageFault) : String :=
  let message := String.ofList (Console.withoutSequences fault.message.toList)
  let error := "Error: " ++ message ++ "\n"
  if fault.showsUsage then
    c.usage ++ "\nTry '" ++ c.path ++ " --help' for help.\n\n" ++ error
  else error

end UsageFault

end CommandDocs.CommandLine

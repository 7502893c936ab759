import CommandDocs.HelpText
import CommandDocs.Page
import CommandDocs.Summary

/-!
# Batches

A module is documented command by command: one page each, or one entry each in a summary. A
command that fails on its own account is logged and left out, and the batch goes on, unless the
batch is to stop at the first failure.
-/

namespace CommandDocs

open Files (Path)

/-- How a batch is done: which commands are left out, whether it stops at the first failure,
whether it reports progress, and how wide the help texts are printed. -/
structure Batch where
  exclude : List String := []
  failFast : Bool := false
  reports : Bool := true
  width : Int := 500

variable {η α : Type}

namespace Batch

/-- The commands of a list that are not excluded. -/
def keep (batch : Batch) (commands : List String) : List String :=
  commands.filter fun c => !batch.exclude.contains c

/-- Reports that a command is next. -/
def announce (batch : Batch) (index total : Nat) (command : String) : Act η Unit :=
  if batch.reports then Act.report ⟨index, total, command⟩ else return

/-- Does one step for each command from a number on and gives the outcomes in order. A failure
that concerns its command alone is an outcome, unless the batch stops at it. -/
def run (batch : Batch) (step : String → Act η α) (warning : String → Failure → String)
    (total : Nat) : Nat → List String → Act η (List (String × Except Failure α))
  | _, [] => return []
  | index, command :: rest => do
      batch.announce index total command
      let outcome ← Act.attempt (step command)
      match outcome with
      | .ok _ => pure ()
      | .error failure =>
          Act.require (failure.isPerCommand && !batch.failFast) failure
          Act.note .warning (warning command failure)
      let more ← run batch step warning total (index + 1) rest
      return (command, outcome) :: more

end Batch

/-- What became of the page of one command: the path written, or the text of the failure. -/
structure PageResult where
  command : String
  outcome : Except String String

def PageResult.written (result : PageResult) : Bool :=
  match result.outcome with
  | .ok _ => true
  | .error _ => false

/-- What stands around the body of every page. -/
structure Frame where
  header : String := ""
  footer : String := ""
  deriving DecidableEq, Repr

/-- Writes the page of one command into a directory. -/
def renderPage (host : Host η) (width : Int) (frame : Frame) (dir : Path) (command : String) :
    Act η Path := do
  let fields ← fetchFields host width command
  let p := dir.child (command ++ ".html")
  Act.writeText p (Page.render frame.header frame.footer fields)
  Act.note .debug ("Wrote " ++ p.text)
  return p

/-- The commands that a name stands for: the command itself, or the commands of a module. -/
def resolve (host : Host η) (batch : Batch) (name : String) : Act η (List String) := do
  if ← Act.ask (.commandExists name) (host.commandExists name) then
    return [name]
  else if ← Act.ask (.moduleExists name) (host.moduleExists name) then
    return batch.keep (← Act.ask (.moduleCommands name) (host.moduleCommands name))
  else throw (.unknownName name)

def requireOutput (dir : Path) : Act η Unit := do
  Act.require (← Act.isDirectory dir) (.outputMissing dir.text)

/-- Writes the pages of every command that a name stands for. -/
def renderPages (host : Host η) (batch : Batch) (frame : Frame) (dir : Path) (name : String) :
    Act η (List PageResult) := do
  requireOutput dir
  let commands ← resolve host batch name
  let outcomes ← batch.run (renderPage host batch.width frame dir)
    (fun command failure => "Skipping " ++ command ++ ": " ++ failure.message)
    commands.length 1 commands
  let results := outcomes.map fun (command, outcome) =>
    PageResult.mk command
      (match outcome with
      | .ok p => .ok p.text
      | .error failure => .error failure.message)
  Act.note .info ("Rendered " ++ toString (results.countP (·.written)) ++ "/" ++
    toString commands.length ++ " command page(s)")
  return results

/-- The entries of a module's summary: every command whose help text can be read. -/
def collect (host : Host η) (batch : Batch) (module : String) : Act η (List Summary.Entry) := do
  if ← Act.ask (.moduleExists module) (host.moduleExists module) then
    let commands := batch.keep (← Act.ask (.moduleCommands module) (host.moduleCommands module))
    let outcomes ← batch.run (fetchHelp host batch.width)
      (fun command failure =>
        "Leaving " ++ command ++ " out of the " ++ module ++ " summary: " ++ failure.message)
      commands.length 1 commands
    let entries := outcomes.filterMap fun (command, outcome) =>
      match outcome with
      | .ok text => some ⟨command, Help.extractSynopsis text⟩
      | .error _ => none
    Act.note .debug ("Collected " ++ toString entries.length ++ "/" ++
      toString commands.length ++ " command(s) from " ++ module)
    return entries
  else throw (.unknownModule module)

/-- Writes the summary of a module to a file in a directory. -/
def writeSummary (host : Host η) (batch : Batch) (dir : Path) (fileName module : String)
    (render : List Summary.Entry → String) : Act η Path := do
  requireOutput dir
  let entries ← collect host batch module
  let p := dir.child fileName
  Act.writeText p (render entries)
  Act.note .info ("Wrote " ++ p.text)
  return p

/-- A file name that may be missing or empty, and what stands in for it then. -/
def fileNameOr (fallback : String) : Option String → String
  | none => fallback
  | some name => if name == "" then fallback else name

def writeHtml (host : Host η) (batch : Batch) (dir : Path) (fileName : Option String)
    (module : String) (flagged : List String) : Act η Path :=
  writeSummary host batch dir (fileNameOr (module ++ ".html") fileName) module fun entries =>
    Summary.renderHtml module entries flagged

def writeMarkdown (host : Host η) (batch : Batch) (dir : Path) (fileName : Option String)
    (module address : String) (flagged : List String) : Act η Path :=
  writeSummary host batch dir (fileNameOr "README.md" fileName) module fun entries =>
    Summary.renderMarkdown module entries address flagged

end CommandDocs

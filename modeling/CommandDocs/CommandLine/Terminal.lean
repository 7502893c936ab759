import CommandDocs.Batch
import CommandDocs.CommandLine.Usage
import CommandDocs.Console.Markup
import CommandDocs.Console.Table
import CommandDocs.Settings.Basic

/-!
# The terminal

A run of the program prints, starts hosts, shows how far it has got, and works in a workspace. It
ends by itself or is stopped: with a status, by wrong usage, by a failure that is no report, or by
a text whose tags do not match.
-/

namespace CommandDocs.CommandLine

/-- How a host is asked and how it is started with an executable and a time limit. -/
structure Launcher (η : Type) where
  host : Host η
  start : (executable : String) → (timeout : Int) → η → η

/-- What the bar of progress shows: a caption, how much there is to do if that is known, and how
much is done. -/
structure Bar where
  caption : String
  total : Option Nat
  done : Nat
  deriving DecidableEq, Repr

def Bar.ofProgress (p : Progress) : Bar :=
  ⟨p.command, some p.total, p.index - 1⟩

/-- The bar when everything is done. -/
def Bar.finished (b : Bar) : Bar :=
  { b with done := b.total.getD 0 }

/-- The workspace, what has been printed, the executables and time limits of the hosts started,
what the bar has shown, and whether every line of the log is wanted. -/
structure Terminal (η : Type) where
  work : Workspace η
  output : String := ""
  started : List (String × Int) := []
  bars : List Bar := []
  verbose : Bool := false

/-- Why a run is stopped. -/
inductive Stop where
  | exit (status : Nat)
  | commandMissing (group : Command)
  | usage (c : Command) (fault : UsageFault)
  | failure (failure : Failure)
  | markup (fault : Console.Markup.Fault)
  deriving DecidableEq, Repr

abbrev Run (η α : Type) := ExceptT Stop (StateM (Terminal η)) α

namespace Run

variable {η α : Type}

def print (text : String) : Run η Unit :=
  modify fun t => { t with output := t.output ++ text }

/-- Stops with a status. -/
def exit (status : Nat) : Run η α :=
  throw (.exit status)

/-- A text whose tags may be refused. -/
def ofMarkup : Except Console.Markup.Fault α → Run η α
  | .ok value => return value
  | .error (.number fault) => throw (.failure (.number fault))
  | .error fault => throw (.markup fault)

/-- Prints a text with tags on lines of its own. -/
def say (text : String) : Run η Unit := do
  print (Console.printed (← ofMarkup (Console.Markup.render text.toList)))

/-- A text that is to be shown as it stands. -/
def literal (text : String) : String :=
  String.ofList (Console.Markup.escape text.toList)

/-- A result that may have failed: a report of this library is printed and ends the run, any
other failure goes through. -/
def settle : Except Failure α → Run η α
  | .ok value => return value
  | .error failure => do
      if failure.isReport then
        say ("[red]Error:[/red] " ++ literal failure.message)
        exit 1
      else throw (.failure failure)

/-- Works in the workspace. -/
def attempt (act : Act η α) : Run η (Except Failure α) := do
  let t ← get
  let (result, work) := act.run t.work
  set { t with work }
  return result

/-- Works in the workspace and settles what comes of it. -/
def work (act : Act η α) : Run η α := do
  settle (← attempt act)

/-- Works under a bar with a caption. When the work succeeds the bar ends up full. What the bar
shows is kept as it is given. How it is drawn, with the tags in a caption, is not modelled, and so
no caption is refused. -/
def workWithBar (caption : String) (act : Act η α) : Run η α := do
  let earlier := (← get).work.progress.length
  let result ← attempt act
  modify fun t =>
    let first : Bar := ⟨caption, none, 0⟩
    let shown := first :: (t.work.progress.drop earlier).map Bar.ofProgress
    let finished := match result with
      | .ok _ => [(shown.getLastD first).finished]
      | .error _ => []
    { t with bars := t.bars ++ shown ++ finished }
  settle result

def startHost (launcher : Launcher η) (settings : Settings) : Run η Unit :=
  modify fun t => { t with
    started := t.started ++ [(settings.executable, settings.timeout)]
    work := { t.work with
      host := launcher.start settings.executable settings.timeout t.work.host } }

end Run

end CommandDocs.CommandLine

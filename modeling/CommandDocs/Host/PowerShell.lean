import CommandDocs.Host.Interface
import CommandDocs.Host.Script
import CommandDocs.Text.Line

/-!
# The PowerShell host

Every call is a fresh process. The modules that were reloaded are registered, and every later
script imports them first, in the order of their reloads.
-/

namespace CommandDocs.Host

/-- How a process ends. One that is not started leaves the system's words for it, and one whose
output is no text leaves what is wrong with the bytes. -/
inductive Outcome where
  | finished (output : String) (help : HelpFile)
  | exited (status : Int) (errors : String)
  | missing
  | denied
  | refused (text : String)
  | timedOut
  | garbled (fault : Text.DecodeFault)
  deriving DecidableEq, Repr

/-- The command line of a process and the seconds that it is allowed. -/
structure Launch where
  arguments : List String
  timeout : Int
  deriving DecidableEq, Repr

/-- A registered module: its name and the path it was loaded from. -/
structure Registration where
  module : String
  path : String
  deriving DecidableEq, Repr

/-- The state of a host: the registry, the launches so far, and the state of whatever runs the
processes. -/
structure Shell (σ : Type) where
  executable : String := "pwsh"
  timeout : Int := 120
  registry : List Registration := []
  launches : List Launch := []
  runner : σ

def signalNames : List (Nat × String) :=
  [
    (1, "SIGHUP"), (2, "SIGINT"), (3, "SIGQUIT"), (4, "SIGILL"), (5, "SIGTRAP"), (6, "SIGABRT"),
    (7, "SIGBUS"), (8, "SIGFPE"), (9, "SIGKILL"), (10, "SIGUSR1"), (11, "SIGSEGV"),
    (12, "SIGUSR2"), (13, "SIGPIPE"), (14, "SIGALRM"), (15, "SIGTERM"), (16, "SIGSTKFLT"),
    (17, "SIGCHLD"), (18, "SIGCONT"), (19, "SIGSTOP"), (20, "SIGTSTP"), (21, "SIGTTIN"),
    (22, "SIGTTOU"), (23, "SIGURG"), (24, "SIGXCPU"), (25, "SIGXFSZ"), (26, "SIGVTALRM"),
    (27, "SIGPROF"), (28, "SIGWINCH"), (29, "SIGIO"), (30, "SIGPWR"), (31, "SIGSYS"),
    (34, "SIGRTMIN"), (64, "SIGRTMAX")
  ]

/-- The words for an exit status; a negative one is the number of a signal. -/
def describeExit (arguments : List String) (status : Int) : String :=
  let command := "Command '" ++ Text.Quoted.quoteList arguments ++ "' "
  if status < 0 then
    match signalNames.find? fun entry => entry.1 == status.natAbs with
    | some (number, name) =>
        command ++ "died with <Signals." ++ name ++ ": " ++ toString number ++ ">."
    | none => command ++ "died with unknown signal " ++ toString status.natAbs ++ "."
  else command ++ "returned non-zero exit status " ++ toString status ++ "."

def trimText (s : String) : String :=
  String.ofList (Text.trim s.toList)

variable {σ : Type}

/-- Runs a request as one process and gives what it prints and what it does to the help file. -/
def run (runner : Launch → σ → Outcome × σ) (request : Request) :
    Call (Shell σ) (String × HelpFile) := do
  let shell := (← get).state
  let script := fullScript (shell.registry.map (·.path)) request
  let launch : Launch :=
    ⟨[shell.executable, "-NoProfile", "-NonInteractive", "-Command", script], shell.timeout⟩
  note .debug ("Running host script: " ++ request.script)
  let (outcome, after) := runner launch shell.runner
  modify fun talk =>
    { talk with state := { talk.state with
        runner := after, launches := talk.state.launches ++ [launch] } }
  match outcome with
  | .finished output help => return (output, help)
  | .missing => throw (.missingExecutable shell.executable)
  | .denied => throw (.denied shell.executable)
  | .refused text => throw (.unstarted text)
  | .timedOut => throw (.timedOut shell.timeout)
  | .garbled fault => throw (.garbled fault)
  | .exited status errors =>
      let detail := trimText errors
      throw (.failed (if detail == "" then describeExit launch.arguments status else detail))

/-- Whether a request prints that something is there. -/
def check (runner : Launch → σ → Outcome × σ) (request : Request) :
    Call (Shell σ) Bool := do
  let (output, _) ← run runner request
  return trimText output == "True"

/-- The names in a listing: its lines without surrounding blanks, empty ones left out. -/
def namesIn (output : String) : List String :=
  ((Text.breakLines output.toList).map fun line => String.ofList (Text.trim line)).filter (· != "")

def setRegistry (change : List Registration → List Registration) : Call (Shell σ) Unit :=
  modify fun talk =>
    { talk with state := { talk.state with registry := change talk.state.registry } }

/-- The registry without a module. -/
def unregister (module : String) (registry : List Registration) : List Registration :=
  registry.filter fun r => r.module != module

/-- The host that runs each request as a process. -/
def powerShell (runner : Launch → σ → Outcome × σ) : Host (Shell σ) where
  commandExists name := check runner (.commandExists name)
  moduleExists name := do
    if (← get).state.registry.any fun r => r.module == name then return true
    check runner (.moduleExists name)
  moduleCommands name := do
    let (output, _) ← run runner (.moduleCommands name)
    return namesIn output
  writeHelp command path width := do
    if !Text.isWritable width then throw (.number .tooLarge)
    let (_, help) ← run runner (.writeHelp command path width)
    return help
  reloadModule module path := do
    setRegistry (unregister module)
    let _ ← run runner (.importModule path)
    setRegistry (· ++ [⟨module, path⟩])
    note .info ("Reloaded module " ++ module ++ " from " ++ path)

end CommandDocs.Host

import CommandDocs.Failure

/-!
# The workspace

What an activity works on: the files, the host, the log, and a trace of what happens. Temporary
files are kept apart from the others, since their names are always new: which of them exist follows
from the trace. An activity ends with a result or a failure; whatever it did until then stays done.
-/

namespace CommandDocs

/-- A report of progress: the command that comes next, its number, and how many there are. -/
structure Progress where
  index : Nat
  total : Nat
  command : String
  deriving DecidableEq, Repr

/-- What happens in the work with commands: a report, a call to the host, or something that becomes
of the temporary file with a number. A file is closed when its use is over, whether or not it has
been removed by then. -/
inductive Event where
  | reported (progress : Progress)
  | asked (call : Host.Recorded)
  | opened (number : Nat)
  | wrote (number : Nat) (bytes : Files.Bytes)
  | removed (number : Nat)
  | closed (number : Nat)
  deriving DecidableEq, Repr

namespace Event

/-- The temporary files that exist after an event. -/
def filesAfter (files : List (Nat × Files.Bytes)) : Event → List (Nat × Files.Bytes)
  | reported _ | asked _ => files
  | opened number => files ++ [(number, [])]
  | wrote number bytes =>
      files.map fun file => if file.1 == number then (number, bytes) else file
  | removed number | closed number => files.filter fun file => file.1 != number

def progress? : Event → Option Progress
  | reported progress => some progress
  | _ => none

end Event

/-- The home directory, and those of other users by their names. -/
structure Homes where
  own : Files.Location := []
  others : List (String × Files.Location) := []

/-- The home directory that a tilde with a name behind it stands for. -/
def Homes.find? (homes : Homes) (name : String) : Option Files.Location :=
  if name == "" then some homes.own else homes.others.lookup name

/-- The files below the root, the working directory and the home directories in it, the number of
temporary files made so far, the log, what has happened, and the state of the host. -/
structure Workspace (η : Type) where
  store : Files.Store := {}
  here : Files.Location := []
  home : Homes := {}
  made : Nat := 0
  log : List Note := []
  events : List Event := []
  host : η

namespace Workspace

variable {η : Type}

/-- The temporary files that exist, with their numbers. -/
def temporary (w : Workspace η) : List (Nat × Files.Bytes) :=
  w.events.foldl Event.filesAfter []

/-- The reports of progress. -/
def progress (w : Workspace η) : List Progress :=
  w.events.filterMap Event.progress?

end Workspace

abbrev Act (η α : Type) := ExceptT Failure (StateM (Workspace η)) α

namespace Act

variable {η α : Type}

/-- Appends a line to the log. -/
def note (level : Level) (text : String) : Act η Unit :=
  modify fun w => { w with log := w.log ++ [⟨level, text⟩] }

def trace (event : Event) : Act η Unit :=
  modify fun w => { w with events := w.events ++ [event] }

def report (progress : Progress) : Act η Unit :=
  trace (.reported progress)

def ofFiles (result : Except Files.Fault α) : Act η α :=
  match result with
  | .ok value => return value
  | .error fault => throw (.file fault)

/-- Asks the files. -/
def inspect (question : Files.Store → Files.Location → Except Files.Fault α) : Act η α := do
  let w ← get
  ofFiles (question w.store w.here)

/-- Changes the files. -/
def alter (change : Files.Store → Files.Location → Except Files.Fault Files.Store) :
    Act η Unit := do
  let store ← inspect change
  modify fun w => { w with store }

/-- Whether there is anything at a path. -/
def exists? (p : Files.Path) : Act η Bool :=
  inspect fun store here => store.exists? here p

/-- Whether there is a directory at a path. -/
def isDirectory (p : Files.Path) : Act η Bool :=
  inspect fun store here => store.isDirectory here p

def isFile (p : Files.Path) : Act η Bool :=
  inspect fun store here => store.isFile here p

/-- The bytes of a file. -/
def read (p : Files.Path) : Act η Files.Bytes :=
  inspect fun store here => store.read here p

/-- Writes a file. -/
def write (p : Files.Path) (bytes : Files.Bytes) : Act η Unit :=
  alter fun store here => store.write here p bytes

def writeText (p : Files.Path) (text : String) : Act η Unit :=
  write p (Text.encodeText text)

/-- Removes a file. -/
def unlink (p : Files.Path) : Act η Unit :=
  alter fun store here => store.unlink here p

/-- Calls the host; its state and its log lines stay even when the call fails. -/
def ask (question : Host.Recorded) (call : Host.Call η α) : Act η α := do
  trace (.asked question)
  let w ← get
  let (result, talk) := (call.run ⟨w.host, w.log⟩)
  set { w with host := talk.state, log := talk.log }
  match result with
  | .ok value => return value
  | .error fault => throw (.host fault)

/-- Fails unless a condition holds. -/
def require (condition : Bool) (failure : Failure) : Act η Unit :=
  if condition then return else throw failure

/-- A result that may be a failure. -/
def ofExcept : Except Failure α → Act η α
  | .ok value => return value
  | .error failure => throw failure

/-- Cleans up after an activity, whether or not it fails. -/
def ensuring (body : Act η α) (cleanup : Act η Unit) : Act η α :=
  ExceptT.mk do
    let result ← body.run
    match ← cleanup.run with
    | .ok () => return result
    | .error failure => return .error failure

/-- Attempts an activity and gives its result or its failure. -/
def attempt (body : Act η α) : Act η (Except Failure α) :=
  ExceptT.mk do return .ok (← body.run)

end Act

end CommandDocs

import CommandDocs.Host.Interface

/-!
# A host that answers from a catalogue

The catalogue gives the commands of each module and the help of each command. Every call is
recorded before it is answered. The host can be down, and reloading alone can fail.
-/

namespace CommandDocs.Host

/-- What happens when the help of a command is asked for. -/
inductive HelpEntry where
  | text (bytes : List UInt8)
  | fails (message : String)
  | crashes (message : String)
  | removesFile
  deriving DecidableEq, Repr

structure Catalogue where
  modules : List (String × List String) := []
  help : List (String × HelpEntry) := []
  down : Option String := none
  reloadFails : Option String := none
  calls : List Recorded := []

namespace Catalogue

/-- Replaces or adds the value of a key. -/
def assign {α : Type} (key : String) (value : α) : List (String × α) → List (String × α)
  | [] => [(key, value)]
  | (k, v) :: rest => if k == key then (k, value) :: rest else (k, v) :: assign key value rest

/-- Records a call; a host that is down fails then. -/
def record (call : Recorded) : Call Catalogue Unit := do
  modify fun talk => { talk with state := { talk.state with calls := talk.state.calls ++ [call] } }
  match (← get).state.down with
  | some message => throw (.reported message)
  | none => return

end Catalogue

def catalogue : Host Catalogue where
  commandExists name := do
    Catalogue.record (.commandExists name)
    return ((← get).state.help.lookup name).isSome
  moduleExists name := do
    Catalogue.record (.moduleExists name)
    return ((← get).state.modules.lookup name).isSome
  moduleCommands module := do
    Catalogue.record (.moduleCommands module)
    return ((← get).state.modules.lookup module).getD []
  writeHelp command path width := do
    Catalogue.record (.writeHelp command path width)
    match (← get).state.help.lookup command with
    | none => throw (.reported ("Get-Help failed for " ++ command))
    | some (.fails message) => throw (.reported message)
    | some (.crashes message) => throw (.crashed message)
    | some .removesFile => return .removed
    | some (.text bytes) => return .written bytes
  reloadModule module path := do
    Catalogue.record (.reloadModule module path)
    match (← get).state.reloadFails with
    | some message => throw (.reported message)
    | none => return

end CommandDocs.Host

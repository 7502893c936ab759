import CommandDocs.CommandLine.Reading
import CommandDocs.CommandLine.Terminal

/-!
# Requests

What a command line asks for. A reading is checked before it becomes a request: the options that
are given in the order of their first places, the operands, then the options that are not given,
and last that there are no operands left over.
-/

namespace CommandDocs.CommandLine

open Files (Path)

inductive Format where
  | html
  | markdown
  deriving DecidableEq, Repr

inductive Request where
  | bundle (module : String) (source output : Path) (exclude : Option String)
      (manifest : Option Path) (reload : Bool)
  | pages (name : String) (output : Path) (header footer : Option Path) (exclude : List String)
      (failFast : Bool)
  | summary (module : String) (output : Path) (format : Format) (fileName address : Option String)
      (exclude flagged : List String) (failFast : Bool)
  | showSettings
  | writeSettings (destination : Path) (force : Bool)
  deriving DecidableEq, Repr

namespace Request

/-- What a reading of a command asks for; a group asks for nothing. -/
def ofReading? (c : Command) (r : Reading) : Option Request :=
  match c with
  | .main | .config => none
  | .bundle =>
      some (.bundle (r.operand 0) (.ofText (r.operand 1)) (.ofText (r.operand 2))
        (r.value? .exclude) ((r.value? .manifest).map .ofText) (!r.has .noReload))
  | .commandPages =>
      some (.pages (r.operand 0) (.ofText (r.operand 1)) ((r.value? .header).map .ofText)
        ((r.value? .footer).map .ofText) (r.values .exclude) (r.has .failFast))
  | .moduleSummary =>
      some (.summary (r.operand 0) (.ofText (r.operand 1))
        (if r.value? .format == some "markdown" then .markdown else .html)
        (r.value? .fileName) (r.value? .baseUrl) (r.values .exclude) (r.values .inProgress)
        (r.has .failFast))
  | .configShow => some .showSettings
  | .configInit =>
      some (.writeSettings (.ofText ((r.value? .path).getD "helpdoc.toml")) (r.has .force))

end Request

namespace Run

variable {η : Type}

/-- What there is at a path as it is written on the command line, if it can be told. A path that
holds a null byte cannot be asked for at all. -/
def entryAt? (path : String) : Run η (Option Files.Entry) := do
  let w := (← get).work
  match w.store.lookText w.here path with
  | .ok entry => return some entry
  | .error .nullByte => throw (.failure (.file ⟨.nullByte, path⟩))
  | .error _ => return none

def refuse (c : Command) (name : String) (misfit : Misfit) : Run η Unit :=
  throw (.usage c (.badValue name misfit))

def checkValue (c : Command) (s : Switch) (value : String) : Run η Unit := do
  match s.takes with
  | .nothing | .text => return
  | .choice words =>
      if !words.contains value then refuse c s.name (.noChoice value words)
  | .file present =>
      match ← entryAt? value with
      | some .directory => refuse c s.name (.directoryForFile value)
      | some (.file _) => return
      | none => if present then refuse c s.name (.absentFile value)

def checkGiven (c : Command) (r : Reading) : List Switch → Run η Unit
  | [] => return
  | s :: rest => do
      checkValue c s ((r.value? s).getD "")
      checkGiven c r rest

/-- Checks the operands and gives those that are left over. -/
def checkOperands (c : Command) : List Operand → List String → Run η (List String)
  | [], rest => return rest
  | operand :: _, [] => throw (.usage c (.operandNeeded operand.name))
  | operand :: operands, value :: rest => do
      if operand.isDirectory then
        match ← entryAt? value with
        | some (.file _) => refuse c operand.name (.fileForDirectory value)
        | _ => pure ()
      checkOperands c operands rest

/-- Checks what stands in for the options that are not given. -/
def checkFallbacks (c : Command) (r : Reading) : List Switch → Run η Unit
  | [] => return
  | s :: rest => do
      match s.fallback? with
      | some value => if !r.has s then checkValue c s value
      | none => pure ()
      checkFallbacks c r rest

def check (c : Command) (r : Reading) : Run η Unit := do
  checkGiven c r r.switches
  let rest ← checkOperands c c.operands r.operands
  checkFallbacks c r c.switches
  if !c.isGroup && !rest.isEmpty then throw (.usage c (.operandsUnwanted rest))

/-- Answers the first option that is answered before anything else, if there is one. -/
def answerEager (c : Command) (r : Reading) : Run η Unit := do
  match r.switches.find? (·.isEager) with
  | none => return
  | some .version => do
      print versionLine
      exit 0
  | some _ => do
      print c.helpPage
      exit 0

/-- Reads the words of a command and checks them. A group without words shows how it is called. -/
def understand (c : Command) (words : List String) : Run η Reading := do
  if c.isGroup && words.isEmpty then throw (.commandMissing c)
  match read c words with
  | .error fault => throw (.usage c fault)
  | .ok r => do
      answerEager c r
      check c r
      return r

/-- The command that a group goes on with, and the words for it. When there is no command of that
name, the words may still hold options of the group. -/
def choose (c : Command) (words : List String) : Run η (Command × List String) := do
  match words with
  | [] => throw (.usage c .commandNeeded)
  | word :: rest =>
      match c.children.find? fun child => child.word == word with
      | some child => return (child, rest)
      | none => do
          let _ ← understand c words
          throw (.usage c (.unknownCommand word (Text.closest word (c.children.map (·.word)))))

end Run

end CommandDocs.CommandLine

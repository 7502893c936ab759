import CommandDocs.Settings.Written
import CommandDocs.Toml.Document
import CommandDocs.Workspace

/-!
# Settings files

Settings are read from a file that the caller names, from the local file, or from the file in the
home directory, whichever comes first. They are saved by way of a temporary file beside the
destination.
-/

namespace CommandDocs.Settings

open Files (Path)

variable {η : Type}

/-- The path of a location. -/
def absolute (location : Files.Location) : Path :=
  ⟨.root, location⟩

/-- A path with a home directory for a leading tilde and the name behind it. -/
def homed (homes : Homes) (p : Path) : Except Failure Path :=
  match p.start, p.parts with
  | .here, part :: rest =>
      match part.toList with
      | '~' :: name =>
          if part.contains '\x00' then .error (.file ⟨.nullByte, p.text⟩)
          else
            match homes.find? (String.ofList name) with
            | some home => .ok ⟨.root, home ++ rest⟩
            | none => .error .noHome
      | _ => .ok p
  | _, _ => .ok p

/-- Finds the home directory that a path opens with. -/
def expandHome (p : Path) : Act η Path := do
  Act.ofExcept (homed (← get).home p)

/-- Parts in which two dots have taken away what stands before them. -/
def climb (parts : List String) : List String :=
  parts.foldl (fun done part => if part == ".." then done.dropLast else done ++ [part]) []

def resolvePath (p : Path) : Act η Path := do
  if p.parts.any fun part => part.contains '\x00' then throw (.file ⟨.nullByte, p.text⟩)
  else
    match p.start with
    | .here => return absolute (climb ((← get).here ++ p.parts))
    | _ => return absolute (climb p.parts)

/-- The path of the settings file: the one that is named, which has to be there, the local one if
it is there, or the one in the home directory. -/
def findFile (named : Option String) : Act η Path := do
  match named with
  | some text =>
      if text == "" then findDefault
      else
        let p ← resolvePath (← expandHome (.ofText text))
        Act.require (← Act.exists? p) (.settings (.notFound p.text))
        return p
  | none => findDefault
where
  /-- The settings file when none is named. -/
  findDefault : Act η Path := do
    let here := (absolute (← get).here).child "helpdoc.toml"
    if ← Act.exists? here then return here
    else return (absolute (← get).home.own).child ".helpdoc/config.toml"

/-- Logs the keys that are ignored. -/
def noteIgnored : List String → Act η Unit
  | [] => return
  | key :: rest => do
      Act.note .warning ("Ignoring unknown config key: " ++ key)
      noteIgnored rest

/-- The settings that the entries of a table give. -/
def understand (entries : Toml.Table) : Act η Settings := do
  let (ignored, result) := ofTable entries
  noteIgnored ignored
  match result with
  | .ok settings => return settings
  | .error fault => throw (.settings fault)

def tableOf (bytes : Files.Bytes) : Except Failure Toml.Table :=
  match Text.decodeText bytes with
  | .error fault => .error (.decoding fault)
  | .ok text =>
      match Toml.readTable text with
      | .ok entries => .ok entries
      | .error .badSyntax => .error (.settings (.notLoaded .badSyntax))
      | .error (.number fault) => .error (.number fault)

/-- Loads the settings; without a file they are the defaults. -/
def load (named : Option String) : Act η Settings := do
  let p ← findFile named
  if ← Act.exists? p then
    let w ← get
    match w.store.read w.here p with
    | .error fault =>
        throw (if fault.isRefusal then .settings (.notLoaded (.file fault)) else .file fault)
    | .ok bytes =>
        let entries ← Act.ofExcept (tableOf bytes)
        Act.note .debug ("Loaded config from: " ++ p.text)
        understand entries
  else
    Act.note .debug "Config file not found, using defaults"
    return {}

/-- What a failure on the way to a saved file is called. -/
def obstacleOf : Failure → Obstacle
  | .file fault => .file fault
  | .decoding fault => .decoding fault
  | .number fault => .number fault
  | _ => .badSyntax

def makeParents (p : Path) : Act η Unit := do
  let w ← get
  let (store, fault) := w.store.makeDirectories w.here p.parent
  set { w with store }
  match fault with
  | some fault => throw (.file fault)
  | none => return

/-- The text to be saved at a path. -/
def textFor (s : Settings) (p : Path) : Act η String := do
  let old ← do
    if ← Act.exists? p then
      match Text.decodeText (← Act.read p) with
      | .ok text => pure (some text)
      | .error fault => throw (.decoding fault)
    else pure none
  match s.textOver old with
  | .ok text => return text
  | .error .badSyntax => throw (.settings (.notSaved .badSyntax))
  | .error (.number fault) => throw (.number fault)

/-- Writes the settings by way of a temporary file. -/
def saveBy (s : Settings) (temporary p : Path) : Act η Unit := do
  makeParents p
  let text ← textFor s p
  Act.writeText temporary text
  Act.alter fun store here => store.rename here temporary p

/-- Saves the settings. After a failure the temporary file is removed. -/
def save (s : Settings) (destination : Path) : Act η Path := do
  let p ← expandHome destination
  match p.withExtension? ".tmp" with
  | none => throw (.nameless p.text)
  | some temporary =>
      match ← Act.attempt (saveBy s temporary p) with
      | .ok () =>
          Act.note .debug ("Saved config to: " ++ p.text)
          return p
      | .error failure =>
          if ← Act.exists? temporary then Act.unlink temporary
          throw (.settings (.notSaved (obstacleOf failure)))

inductive Template where
  | header
  | footer
  deriving DecidableEq, Repr

def Template.name : Template → String
  | .header => "header"
  | .footer => "footer"

def templatePath? (s : Settings) : Template → Option String
  | .header => s.headerTemplate
  | .footer => s.footerTemplate

/-- The text of bytes with every line break as one line feed. -/
def templateText (bytes : Files.Bytes) : Except Failure String :=
  match Text.decodeText bytes with
  | .ok text => .ok (String.ofList (Text.unifyBreaks text.toList))
  | .error fault => .error (.decoding fault)

/-- The text of a template; one that is not set is empty. -/
def readTemplate (s : Settings) (which : Template) : Act η String := do
  match s.templatePath? which with
  | none => return ""
  | some "" => return ""
  | some template =>
      let p ← expandHome (.ofText template)
      let w ← get
      match w.store.read w.here p with
      | .ok bytes => Act.ofExcept (templateText bytes)
      | .error fault =>
          throw (if fault.isRefusal then
              .settings (.unreadableTemplate which.name template fault)
            else .file fault)

end CommandDocs.Settings

import CommandDocs.Settings.Fault
import CommandDocs.Toml.Value

/-!
# Settings

The settings give defaults for what the command line leaves open. They are read from the entries
of a table: an entry with an unknown key is ignored, one of the wrong kind is a fault.
-/

namespace CommandDocs

structure Settings where
  scriptExtension : String := "ps1"
  bundleExtension : String := "psm1"
  helpWidth : Int := 500
  executable : String := "pwsh"
  timeout : Int := 120
  headerTemplate : Option String := none
  footerTemplate : Option String := none
  docsBaseUrl : Option String := none
  exclude : List String := []
  inProgress : List String := []
  deriving DecidableEq, Repr, Inhabited

namespace Settings

inductive Key where
  | scriptExtension
  | bundleExtension
  | helpWidth
  | executable
  | timeout
  | headerTemplate
  | footerTemplate
  | docsBaseUrl
  | exclude
  | inProgress
  deriving DecidableEq, Repr

namespace Key

/-- Every key, in the order in which they are written. -/
def all : List Key :=
  [.scriptExtension, .bundleExtension, .helpWidth, .executable, .timeout, .headerTemplate,
    .footerTemplate, .docsBaseUrl, .exclude, .inProgress]

/-- The name of a key in a file. -/
def name : Key → String
  | .scriptExtension => "script_extension"
  | .bundleExtension => "bundle_extension"
  | .helpWidth => "help_width"
  | .executable => "pwsh_executable"
  | .timeout => "command_timeout"
  | .headerTemplate => "header_template"
  | .footerTemplate => "footer_template"
  | .docsBaseUrl => "docs_base_url"
  | .exclude => "exclude"
  | .inProgress => "in_progress"

def ofName? (s : String) : Option Key :=
  all.find? fun key => key.name == s

theorem ofName?_name (key : Key) : ofName? key.name = some key := by
  cases key <;> decide

end Key

def strings? : List Toml.Value → Option (List String)
  | [] => some []
  | .string s :: rest => (strings? rest).map (s :: ·)
  | _ :: _ => none

def listOf (key : Key) : Toml.Value → Except Fault (List String)
  | .array items =>
      match strings? items with
      | some texts => .ok texts
      | none => .error (.notStrings key.name)
  | _ => .error (.notStrings key.name)

def integerOf (key : Key) : Toml.Value → Except Fault Int
  | .integer n => .ok n
  | _ => .error (.notInteger key.name)

def stringOf (key : Key) : Toml.Value → Except Fault String
  | .string s => .ok s
  | _ => .error (.notString key.name)

/-- Settings with the value of one key replaced. -/
def assign (s : Settings) (key : Key) (value : Toml.Value) : Except Fault Settings :=
  match key with
  | .scriptExtension => (stringOf key value).map fun v => { s with scriptExtension := v }
  | .bundleExtension => (stringOf key value).map fun v => { s with bundleExtension := v }
  | .helpWidth => (integerOf key value).map fun v => { s with helpWidth := v }
  | .executable => (stringOf key value).map fun v => { s with executable := v }
  | .timeout => (integerOf key value).map fun v => { s with timeout := v }
  | .headerTemplate => (stringOf key value).map fun v => { s with headerTemplate := some v }
  | .footerTemplate => (stringOf key value).map fun v => { s with footerTemplate := some v }
  | .docsBaseUrl => (stringOf key value).map fun v => { s with docsBaseUrl := some v }
  | .exclude => (listOf key value).map fun v => { s with exclude := v }
  | .inProgress => (listOf key value).map fun v => { s with inProgress := v }

/-- Settings changed by some entries, and the keys that are ignored on the way. -/
def override (s : Settings) : Toml.Table → List String × Except Fault Settings
  | [] => ([], .ok s)
  | (name, value) :: rest =>
      match Key.ofName? name with
      | none =>
          let (ignored, result) := override s rest
          (name :: ignored, result)
      | some key =>
          match s.assign key value with
          | .error fault => ([], .error fault)
          | .ok next => override next rest

def ofTable (entries : Toml.Table) : List String × Except Fault Settings :=
  override {} entries

/-- A value as it is kept in the settings. -/
inductive Stored where
  | text (s : String)
  | number (n : Int)
  | texts (items : List String)
  deriving DecidableEq, Repr

/-- The value of a key; an optional key may have none. -/
def value? (s : Settings) : Key → Option Stored
  | .scriptExtension => some (.text s.scriptExtension)
  | .bundleExtension => some (.text s.bundleExtension)
  | .helpWidth => some (.number s.helpWidth)
  | .executable => some (.text s.executable)
  | .timeout => some (.number s.timeout)
  | .headerTemplate => s.headerTemplate.map .text
  | .footerTemplate => s.footerTemplate.map .text
  | .docsBaseUrl => s.docsBaseUrl.map .text
  | .exclude => some (.texts s.exclude)
  | .inProgress => some (.texts s.inProgress)

/-- The keys that have values, with them. -/
def entries (s : Settings) : List (Key × Stored) :=
  Key.all.filterMap fun key => (s.value? key).map fun value => (key, value)

def Stored.toValue : Stored → Toml.Value
  | .text s => .string s
  | .number n => .integer n
  | .texts items => .array (items.map .string)

def toTable (s : Settings) : Toml.Table :=
  s.entries.map fun (key, value) => (key.name, value.toValue)

end Settings

end CommandDocs

/-!
# Commands

The commands of the program, the options and operands that each of them takes, and its help page.
-/

namespace CommandDocs.CommandLine

inductive Command where
  | main
  | bundle
  | commandPages
  | moduleSummary
  | config
  | configInit
  | configShow
  deriving DecidableEq, Repr

inductive Switch where
  | config
  | verbose
  | version
  | help
  | exclude
  | manifest
  | noReload
  | header
  | footer
  | failFast
  | format
  | fileName
  | inProgress
  | baseUrl
  | path
  | force
  deriving DecidableEq, Repr

/-- What stands behind an option: nothing, any text, a file that may have to be there, or one of
some words. -/
inductive Takes where
  | nothing
  | text
  | file (present : Bool)
  | choice (words : List String)
  deriving DecidableEq, Repr

namespace Switch

/-- The long name of an option. -/
def name : Switch → String
  | .config => "--config"
  | .verbose => "--verbose"
  | .version => "--version"
  | .help => "--help"
  | .exclude => "--exclude"
  | .manifest => "--manifest"
  | .noReload => "--no-reload"
  | .header => "--header"
  | .footer => "--footer"
  | .failFast => "--fail-fast"
  | .format => "--format"
  | .fileName => "--file-name"
  | .inProgress => "--in-progress"
  | .baseUrl => "--base-url"
  | .path => "--path"
  | .force => "--force"

/-- The letter that an option has besides its long name. -/
def letter? : Switch → Option Char
  | .verbose => some 'v'
  | _ => none

/-- What stands behind an option. -/
def takes : Switch → Takes
  | .verbose | .version | .help | .noReload | .failFast | .force => .nothing
  | .config | .exclude | .fileName | .inProgress | .baseUrl => .text
  | .manifest | .path => .file false
  | .header | .footer => .file true
  | .format => .choice ["html", "markdown"]

/-- Whether an option is answered before anything else is looked at. -/
def isEager : Switch → Bool
  | .version | .help => true
  | _ => false

/-- What has to be true of an option that is not given: a value to be checked in its place. -/
def fallback? : Switch → Option String
  | .path => some "helpdoc.toml"
  | _ => none

end Switch

/-- A word that a command needs: its name, and whether it must not lead to a file. -/
structure Operand where
  name : String
  isDirectory : Bool := false
  deriving DecidableEq, Repr

namespace Command

def word : Command → String
  | .main => "helpdoc"
  | .bundle => "bundle"
  | .commandPages => "command-pages"
  | .moduleSummary => "module-summary"
  | .config => "config"
  | .configInit => "init"
  | .configShow => "show"

/-- The commands below a group, in the order of their words. -/
def children : Command → List Command
  | .main => [.bundle, .commandPages, .config, .moduleSummary]
  | .config => [.configInit, .configShow]
  | _ => []

/-- Whether a command only leads to other ones. -/
def isGroup (c : Command) : Bool :=
  !c.children.isEmpty

/-- The words that lead to a command. -/
def path : Command → String
  | .main => "helpdoc"
  | .configInit => "helpdoc config init"
  | .configShow => "helpdoc config show"
  | c => "helpdoc " ++ c.word

def switches : Command → List Switch
  | .main => [.config, .verbose, .version, .help]
  | .bundle => [.exclude, .manifest, .noReload, .help]
  | .commandPages => [.header, .footer, .exclude, .failFast, .help]
  | .moduleSummary =>
      [.format, .fileName, .exclude, .inProgress, .baseUrl, .failFast, .help]
  | .config => [.help]
  | .configInit => [.path, .force, .help]
  | .configShow => [.help]

def operands : Command → List Operand
  | .bundle => [⟨"MODULE_NAME", false⟩, ⟨"SOURCE_DIR", true⟩, ⟨"OUTPUT_DIR", true⟩]
  | .commandPages => [⟨"NAME", false⟩, ⟨"OUTPUT_DIR", true⟩]
  | .moduleSummary => [⟨"MODULE", false⟩, ⟨"OUTPUT_DIR", true⟩]
  | _ => []

/-- How a command is called. -/
def usage (c : Command) : String :=
  let operands := if c.isGroup then ["COMMAND", "[ARGS]..."] else c.operands.map (·.name)
  "Usage: " ++ " ".intercalate (c.path :: "[OPTIONS]" :: operands)

def summary : Command → String
  | .main => "Build module bundles and documentation pages from command help text."
  | .bundle => "Concatenate SOURCE_DIR scripts into OUTPUT_DIR/MODULE_NAME.psm1."
  | .commandPages => "Render OUTPUT_DIR/<command>.html for a command or every command of a module."
  | .moduleSummary => "Render a summary page listing every command of MODULE."
  | .config => "Show or create the helpdoc configuration file."
  | .configInit => "Write a configuration file with default values."
  | .configShow => "Show the effective configuration."

def brief : Command → String
  | .bundle => "Concatenate SOURCE_DIR scripts into..."
  | .commandPages => "Render OUTPUT_DIR/<command>.html for a command or every..."
  | c => c.summary

/-- What else a help page says about a command. -/
def details : Command → List String
  | .main =>
      [
        "",
        "  COMMANDS:",
        "      bundle          Concatenate script files into one module file",
        "      command-pages   Render one HTML page per command",
        "      module-summary  Render a module summary (HTML or Markdown)",
        "      config          Show or create the configuration file"
      ]
  | _ => []

end Command

namespace Switch

/-- An option as a help page shows it. -/
def label (s : Switch) : String :=
  let names := match s.letter? with
    | some c => "-" ++ String.singleton c ++ ", " ++ s.name
    | none => s.name
  match s.takes with
  | .nothing => names
  | .text => names ++ " TEXT"
  | .file _ => names ++ " FILE"
  | .choice words => names ++ " [" ++ "|".intercalate words ++ "]"

/-- What a help page says about an option of a command, in lines. -/
def describe (c : Command) : Switch → List String
  | .config => ["Path to config file (default: ./helpdoc.toml)"]
  | .verbose => ["Verbose output"]
  | .version => ["Show the version and exit."]
  | .help => ["Show this message and exit."]
  | .exclude =>
      match c with
      | .bundle => ["Glob of script file names to leave out (e.g. '*.Tests.ps1')"]
      | .commandPages => ["Command to skip (repeatable)"]
      | _ => ["Command to leave out (repeatable)"]
  | .manifest => ["Write the per-file SHA-256 hashes to this JSON file"]
  | .noReload => ["Do not import the bundled module afterwards"]
  | .header | .footer => []
  | .failFast => ["Stop at the first command that fails"]
  | .format => ["[default: html]"]
  | .fileName => ["Output file name (default: <MODULE>.html or", "README.md)"]
  | .inProgress => ["Command to flag as IN PROGRESS (repeatable)"]
  | .baseUrl => ["Documentation URL prefix for Markdown links"]
  | .path => ["[default: helpdoc.toml]"]
  | .force => ["Overwrite an existing file"]

end Switch

/-- A text filled up with spaces to a length. -/
def padRight (n : Nat) (s : String) : String :=
  s ++ String.ofList (List.replicate (n - s.length) ' ')

/-- Two columns: terms, and what is said about each of them, in lines. -/
def definitionLines (entries : List (String × List String)) : List String :=
  let widest := entries.foldl (fun n entry => max n entry.1.length) 0
  entries.flatMap fun (term, lines) =>
    match lines with
    | [] => ["  " ++ term]
    | first :: more =>
        ("  " ++ padRight widest term ++ "  " ++ first) ::
          more.map fun line => padRight (widest + 4) "" ++ line

def Command.helpPage (c : Command) : String :=
  let options := definitionLines (c.switches.map fun s => (s.label, s.describe c))
  let commands := definitionLines (c.children.map fun child => (child.word, [child.brief]))
  let lines := [c.usage, "", "  " ++ c.summary] ++ c.details ++ ["", "Options:"] ++ options ++
    (if c.isGroup then ["", "Commands:"] ++ commands else [])
  String.join (lines.map (· ++ "\n"))

def versionLine : String :=
  "helpdoc, version 0.1.0\n"

end CommandDocs.CommandLine

import CommandDocs.CommandLine.Request
import CommandDocs.Manifest
import CommandDocs.Settings.File

/-!
# The program

What the program does for each request, and a whole run from its words to its answer. The settings
are loaded before the words of the chosen command are looked at.
-/

namespace CommandDocs.CommandLine

open Files (Path)

variable {η : Type}

/-- A text with tags as a table shows it. -/
def shown (text : String) : Except Console.Markup.Fault Console.Marked :=
  Console.Markup.render text.toList

def shownLiteral (text : String) : Except Console.Markup.Fault Console.Marked :=
  shown (Run.literal text)

def pageStatus (result : PageResult) : String :=
  if result.written then "written" else "failed"

def pageDetail (result : PageResult) : Except Console.Markup.Fault Console.Marked :=
  match result.outcome with
  | .ok path => shown path
  | .error text => shownLiteral text

/-- The table of what became of some pages. -/
def resultTable (results : List PageResult) : Except Console.Markup.Fault Console.Table := do
  let names ← results.mapM fun r => shown r.command
  let details ← results.mapM pageDetail
  let status := results.map fun r => (pageStatus r).toList
  return {
    title := "Command Pages".toList
    head := ["Command".toList, "Status".toList, "Output / Error".toList]
    rows := (names.zip (status.zip details)).map fun (name, word, detail) =>
      [name, ⟨word, []⟩, detail] }

def storedText : Option Settings.Stored → Except Text.NumberFault String
  | none => .ok "None"
  | some (.text s) => .ok (Text.Quoted.quoteString s)
  | some (.number n) => Text.writeInteger n
  | some (.texts items) => .ok (Text.Quoted.quoteList items)

def settingTexts (settings : Settings) : Except Failure (List (String × String)) :=
  Settings.Key.all.mapM fun key =>
    match storedText (settings.value? key) with
    | .ok text => .ok (key.name, text)
    | .error fault => .error (.number fault)

def settingsTable (texts : List (String × String)) :
    Except Console.Markup.Fault Console.Table := do
  let rows ← texts.mapM fun (name, text) => do
    return [⟨name.toList, []⟩, ← shownLiteral text]
  return { title := "helpdoc configuration".toList, head := ["Key".toList, "Value".toList], rows }

namespace Run

/-- The text of a template: that of the file which is named, or the one of the settings. -/
def template (settings : Settings) (which : Settings.Template) : Option Path → Run η String
  | some p => work do Act.ofExcept (Settings.templateText (← Act.read p))
  | none => work (settings.readTemplate which)

/-- Bundles a module, writes the manifest if one is wanted, and reloads the bundle. -/
def doBundle (launcher : Launcher η) (settings : Settings) (module : String)
    (source output : Path) (exclude : Option String) (manifest : Option Path) (reload : Bool) :
    Run η Unit := do
  let bundle ← work (writeBundle module source output ⟨exclude, settings.scriptExtension⟩
    settings.bundleExtension)
  match manifest with
  | none => pure ()
  | some p => do
      let _ ← work (writeManifest bundle p)
  if reload then
    startHost launcher settings
    let path := bundle.output.text
    work (Act.ask (.reloadModule module path) (launcher.host.reloadModule module path))
  say ("[green]✓[/green] Bundled " ++ toString bundle.parts.length ++ " file(s) into " ++
    literal bundle.output.text)

/-- Writes the pages that a name stands for and prints what became of them. -/
def doPages (launcher : Launcher η) (settings : Settings) (name : String) (output : Path)
    (header footer : Option Path) (exclude : List String) (failFast : Bool) : Run η Unit := do
  startHost launcher settings
  let frame : Frame :=
    ⟨← template settings .header header, ← template settings .footer footer⟩
  let batch : Batch := {
    exclude := settings.exclude ++ exclude
    failFast
    width := settings.helpWidth }
  let results ← workWithBar ("Resolving " ++ name ++ "...")
    (renderPages launcher.host batch frame output name)
  print (← ofMarkup (resultTable results)).text
  if !results.all (·.written) then exit 1

/-- Writes the summary of a module. -/
def doSummary (launcher : Launcher η) (settings : Settings) (module : String) (output : Path)
    (format : Format) (fileName address : Option String) (exclude flagged : List String)
    (failFast : Bool) : Run η Unit := do
  startHost launcher settings
  let batch : Batch := {
    exclude := settings.exclude ++ exclude
    failFast
    width := settings.helpWidth }
  let flagged := settings.inProgress ++ flagged
  let caption := "Listing " ++ module ++ "..."
  let p ← match format with
    | .html => workWithBar caption (writeHtml launcher.host batch output fileName module flagged)
    | .markdown => do
        let address := (address.filter (· != "")).getD (settings.docsBaseUrl.getD "")
        if address == "" then throw (.usage .moduleSummary .addressNeeded)
        workWithBar caption
          (writeMarkdown launcher.host batch output fileName module address flagged)
  say ("[green]✓[/green] Wrote " ++ literal p.text)

/-- Prints the settings. -/
def doShow (settings : Settings) : Run η Unit := do
  let texts ← settle (settingTexts settings)
  print (← ofMarkup (settingsTable texts)).text

/-- Writes a settings file with the defaults. A file that is there is only replaced by force. -/
def doWrite (destination : Path) (force : Bool) : Run η Unit := do
  let present ← work (Act.exists? destination)
  if present && !force then
    say ("[yellow]" ++ literal destination.text ++ " already exists (use --force)[/yellow]")
    exit 1
  let _ ← work (Settings.save {} destination)
  say ("[green]✓[/green] Wrote " ++ literal destination.text)

/-- Does what a request asks for. -/
def fulfil (launcher : Launcher η) (settings : Settings) : Request → Run η Unit
  | .bundle module source output exclude manifest reload =>
      doBundle launcher settings module source output exclude manifest reload
  | .pages name output header footer exclude failFast =>
      doPages launcher settings name output header footer exclude failFast
  | .summary module output format fileName address exclude flagged failFast =>
      doSummary launcher settings module output format fileName address exclude flagged failFast
  | .showSettings => doShow settings
  | .writeSettings destination force => doWrite destination force

/-- Goes through the words of a command that is no group. -/
def leaf (launcher : Launcher η) (settings : Settings) (c : Command) (words : List String) :
    Run η Unit := do
  let r ← understand c words
  match Request.ofReading? c r with
  | some request => fulfil launcher settings request
  | none => return

/-- Goes through the words of a whole command line. -/
def commandLine (launcher : Launcher η) (words : List String) : Run η Unit := do
  let r ← understand .main words
  let (c, rest) ← choose .main r.operands
  modify fun t => { t with verbose := r.has .verbose }
  let settings ← work (Settings.load (r.value? .config))
  match c with
  | .config => do
      let inner ← understand .config rest
      let (c, rest) ← choose .config inner.operands
      leaf launcher settings c rest
  | c => leaf launcher settings c rest

end Run

/-- What is left of a run: its status, what it wrote to either stream, and why it broke off, if it
did so for a reason that is neither a report nor wrong usage. -/
structure Answer where
  status : Nat
  output : String
  errors : String
  broken : Option (Failure ⊕ Console.Markup.Fault) := none

def logText (verbose : Bool) (log : List Note) : String :=
  String.join ((log.filter fun note => verbose || note.level != .debug).map (·.text ++ "\n"))

/-- A text in which a carriage return before a line feed counts for nothing. -/
def oneBreak (text : String) : String :=
  String.ofList (Text.dropReturns text.toList)

/-- The answer of a run that ended in a certain way. -/
def answerOf (result : Except Stop Unit) (t : Terminal η) : Answer :=
  let errors (report : String) :=
    oneBreak (logText t.verbose t.work.log ++ report)
  match result with
  | .ok () => ⟨0, t.output, errors "", none⟩
  | .error (.exit status) => ⟨status, t.output, errors "", none⟩
  | .error (.commandMissing c) => ⟨2, t.output, errors c.helpPage, none⟩
  | .error (.usage c fault) => ⟨2, t.output, errors (fault.report c), none⟩
  | .error (.failure failure) => ⟨1, t.output, errors "", some (.inl failure)⟩
  | .error (.markup fault) => ⟨1, t.output, errors "", some (.inr fault)⟩

def runProgram (launcher : Launcher η) (words : List String) (work : Workspace η) :
    Answer × Terminal η :=
  let (result, t) := (Run.commandLine launcher words).run { work }
  (answerOf result t, t)

end CommandDocs.CommandLine

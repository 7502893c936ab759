import CommandDocs.Proofs.Batch.Alone

/-!
# Summaries and pages agree

The summary of a module and the pages of its commands are made by two batches.  When the answers
of the host depend on the questions alone, both batches take the same commands, and a command is
listed with the synopsis of its page exactly when its page is written.
-/

namespace CommandDocs

open Files (Path Bytes Location)

variable {η : Type}

/-! ## Hosts that repeat themselves -/

namespace Host

/-- What a host answers to the questions of a batch. -/
structure Replies where
  commandExists : String → Except Fault Bool
  moduleExists : String → Except Fault Bool
  moduleCommands : String → Except Fault (List String)
  help : String → Int → Except Fault HelpFile

/-- A host whose answers depend on the questions alone, as long as it is settled. -/
structure Repeats (host : Host η) (settled : η → Prop) (replies : Replies) : Prop where
  answers : host.Answers settled replies.help
  commandExists : ∀ name (talk : Talk η), settled talk.state →
    ((host.commandExists name).run talk).1 = replies.commandExists name
  moduleExists : ∀ name (talk : Talk η), settled talk.state →
    ((host.moduleExists name).run talk).1 = replies.moduleExists name
  moduleCommands : ∀ name (talk : Talk η), settled talk.state →
    ((host.moduleCommands name).run talk).1 = replies.moduleCommands name

def catalogueReplies (modules : List (String × List String)) (help : List (String × HelpEntry)) :
    Replies where
  commandExists name := .ok (help.lookup name).isSome
  moduleExists name := .ok (modules.lookup name).isSome
  moduleCommands name := .ok ((modules.lookup name).getD [])
  help := catalogueAnswer help

theorem repeats_catalogue (modules : List (String × List String))
    (help : List (String × HelpEntry)) :
    catalogue.Repeats (fun c => c.modules = modules ∧ c.help = help ∧ c.down = none)
      (catalogueReplies modules help) where
  answers := {
    keeps := {
      commandExists := by
        rintro name ⟨⟨listed, found, down, fails, calls⟩, log⟩ ⟨rfl, rfl, rfl⟩
        exact ⟨rfl, rfl, rfl⟩
      moduleExists := by
        rintro name ⟨⟨listed, found, down, fails, calls⟩, log⟩ ⟨rfl, rfl, rfl⟩
        exact ⟨rfl, rfl, rfl⟩
      moduleCommands := by
        rintro name ⟨⟨listed, found, down, fails, calls⟩, log⟩ ⟨rfl, rfl, rfl⟩
        exact ⟨rfl, rfl, rfl⟩
      writeHelp := by
        rintro command path width talk ⟨listed, same, up⟩
        rw [run_writeHelp_catalogue up]
        exact ⟨listed, same, up⟩
    }
    reply := by
      rintro command path width talk ⟨_, rfl, up⟩
      rw [run_writeHelp_catalogue up]
      rfl
  }
  commandExists := by
    rintro name ⟨⟨listed, found, down, fails, calls⟩, log⟩ ⟨rfl, rfl, rfl⟩
    rfl
  moduleExists := by
    rintro name ⟨⟨listed, found, down, fails, calls⟩, log⟩ ⟨rfl, rfl, rfl⟩
    rfl
  moduleCommands := by
    rintro name ⟨⟨listed, found, down, fails, calls⟩, log⟩ ⟨rfl, rfl, rfl⟩
    rfl

def helpText? (answer : Except Fault HelpFile) : Option String :=
  (helpBytes answer).bind fun bytes => (Text.decodeDocument bytes).toOption

end Host

/-- What is done with the answer to a question is done with the reply that a settled host always
gives, in the workspace after the call. -/
theorem Act.exists_of_run_ask_ok {α β : Type} {settled : η → Prop} {question : Host.Recorded}
    {call : Host.Call η α} {reply : Except Host.Fault α} {next : α → Act η β} {value : β}
    {w after : Workspace η} (start : settled w.host)
    (kept : ∀ talk : Host.Talk η, settled talk.state → settled (call.run talk).2.state)
    (replied : ∀ talk : Host.Talk η, settled talk.state → (call.run talk).1 = reply)
    (ran : (ask question call >>= next).run w = (.ok value, after)) :
    ∃ answer, ∃ talk : Host.Talk η, reply = .ok answer ∧ settled talk.state ∧
      (next answer).run (w.told question talk) = (.ok value, after) := by
  obtain ⟨answer, middle, asked, later⟩ := exists_of_run_bind_ok ran
  obtain ⟨talk, answered, rfl⟩ := exists_talk_of_run_ask_ok asked
  have holds := kept ⟨w.host, w.log⟩ start
  have same := replied ⟨w.host, w.log⟩ start
  rw [answered] at holds same
  exact ⟨answer, talk, same.symm, holds, later⟩

section Listing

variable {settled : η → Prop} {host : Host η} {replies : Host.Replies}
  (repeats : host.Repeats settled replies) {batch : Batch} {name : String} {w after : Workspace η}
  (start : settled w.host)
include repeats start

/-- A name that is no command stands for the commands of a module, but for the excluded ones. -/
theorem moduleCommands_of_resolve {commands : List String}
    (apart : replies.commandExists name ≠ .ok true)
    (resolved : (resolve host batch name).run w = (.ok commands, after)) :
    ∃ listing, replies.moduleCommands name = .ok listing ∧ commands = batch.keep listing := by
  have keeps := repeats.answers.keeps
  obtain ⟨isCommand, first, single, start, resolved⟩ := Act.exists_of_run_ask_ok start
    (keeps.commandExists name) (repeats.commandExists name) resolved
  cases isCommand with
  | true => exact absurd single apart
  | false =>
      obtain ⟨isModule, second, known, start, resolved⟩ := Act.exists_of_run_ask_ok start
        (keeps.moduleExists name) (repeats.moduleExists name) resolved
      cases isModule with
      | false => cases resolved
      | true =>
          obtain ⟨listing, third, listed, _, given⟩ := Act.exists_of_run_ask_ok start
            (keeps.moduleCommands name) (repeats.moduleCommands name) resolved
          cases given
          exact ⟨listing, listed, rfl⟩

end Listing

/-! ## Summaries -/

/-- The warning that a summary logs. -/
def leavingOut (module command : String) (failure : Failure) : String :=
  "Leaving " ++ command ++ " out of the " ++ module ++ " summary: " ++ failure.message

/-- The entries that come of the help texts of some commands. -/
def summaryEntries (outcomes : List (String × Except Failure String)) : List Summary.Entry :=
  outcomes.filterMap fun (command, outcome) =>
    match outcome with
    | .ok text => some ⟨command, Help.extractSynopsis text⟩
    | .error _ => none

/-- A summary that gives entries has taken the commands of its module in turn. -/
theorem turns_of_run_collect_ok {settled : η → Prop} {host : Host η} {replies : Host.Replies}
    (repeats : host.Repeats settled replies) {batch : Batch} {module : String}
    {entries : List Summary.Entry} {w after : Workspace η} (start : settled w.host)
    (collected : (collect host batch module).run w = (.ok entries, after)) :
    ∃ listing outcomes last, ∃ talk : Host.Talk η,
      replies.moduleCommands module = .ok listing ∧ settled talk.state ∧
      Batch.Turns (batch.Turn (fetchHelp host batch.width) (leavingOut module)
        (batch.keep listing).length) 1 (batch.keep listing)
        (w.talked [.moduleExists module, .moduleCommands module] talk) outcomes last ∧
      entries = summaryEntries ((batch.keep listing).zip outcomes) ∧
      after.progress = last.progress := by
  have keeps := repeats.answers.keeps
  unfold collect at collected
  obtain ⟨isModule, first, known, start, collected⟩ := Act.exists_of_run_ask_ok start
    (keeps.moduleExists module) (repeats.moduleExists module) collected
  cases isModule with
  | false => cases collected
  | true =>
      rw [if_pos rfl] at collected
      obtain ⟨listing, second, listed, start, collected⟩ := Act.exists_of_run_ask_ok start
        (keeps.moduleCommands module) (repeats.moduleCommands module) collected
      obtain ⟨found, last, turned, given⟩ := exists_of_run_bind_ok collected
      obtain ⟨outcomes, rfl, turns⟩ := Batch.turns_of_run_eq_ok turned
      cases given
      rw [Workspace.told, Workspace.told, Workspace.talked_talked] at turns
      exact ⟨listing, outcomes, last, second, listed, start, turns, rfl, rfl⟩

section Fetching

variable {settled : η → Prop} {host : Host η}
  {answer : String → Int → Except Host.Fault Host.HelpFile} (answers : host.Answers settled answer)
  {batch : Batch} {warning : String → Failure → String} {total : Nat}
include answers

/-- A turn of a summary makes one report, and its outcome is the help text that the host leaves. -/
theorem fetched_of_turn {index : Nat} {command : String} {w after : Workspace η}
    {outcome : Except Failure String} (fresh : w.Fresh) (start : settled w.host)
    (turn : batch.Turn (fetchHelp host batch.width) warning total index command w outcome after) :
    (after.Fresh ∧ settled after.host) ∧
      outcome.toOption = Host.helpText? (answer command batch.width) ∧
      after.progress = w.progress ++ batch.due total index command := by
  have ready := fresh.announced batch total index command
  have fetched := run_fetchHelp ready host batch.width command
  have kept := answers.keeps.writeHelp command (Temporary.path (w.made + 1)) batch.width
    ⟨w.host, w.log⟩ start
  have said : (Temporary.helpText (w.made + 1)
      ((batch.announced total index command w).helpCall host batch.width command).1).toOption =
        Host.helpText? (answer command batch.width) := by
    rw [Temporary.toOption_helpText, answers.reply_announced start]
    rfl
  have reported := (Workspace.progress_fetched (batch.announced total index command w) host
    batch.width command).trans (batch.progress_announced total index command w)
  cases turn with
  | kept ran =>
      rw [fetched] at ran
      obtain ⟨same, rfl⟩ := Prod.mk.inj ran
      exact ⟨⟨ready.fetched host batch.width command, kept⟩, same ▸ said, reported⟩
  | skipped ran goes =>
      rw [fetched] at ran
      obtain ⟨same, rfl⟩ := Prod.mk.inj ran
      exact ⟨⟨ready.fetched host batch.width command, kept⟩, same ▸ said, reported⟩

theorem fetched_of_turns {index : Nat} {commands : List String} {w after : Workspace η}
    {outcomes : List (Except Failure String)} (fresh : w.Fresh) (start : settled w.host)
    (turns : Batch.Turns (batch.Turn (fetchHelp host batch.width) warning total) index commands w
      outcomes after) :
    List.Forall₂ (fun command outcome =>
        outcome.toOption = Host.helpText? (answer command batch.width)) commands outcomes ∧
      after.progress = w.progress ++ batch.reportsFrom total index commands := by
  induction turns with
  | done => simp [Batch.reportsFrom]
  | next first rest ih =>
      obtain ⟨⟨fresh, start⟩, said, reported⟩ := fetched_of_turn answers fresh start first
      obtain ⟨others, reports⟩ := ih fresh start
      refine ⟨.cons said others, ?_⟩
      rw [reports, reported, Batch.reportsFrom_cons, List.append_assoc]

end Fetching

/-- The entry of a command in a summary, if its help text can be read. -/
def entryOf? (answer : String → Int → Except Host.Fault Host.HelpFile) (width : Int)
    (command : String) : Option Summary.Entry :=
  (Host.helpText? (answer command width)).map fun text => ⟨command, Help.extractSynopsis text⟩

/-- A summary lists the commands whose help texts can be read. -/
theorem summaryEntries_eq {answer : String → Int → Except Host.Fault Host.HelpFile} {width : Int}
    {commands : List String} {outcomes : List (Except Failure String)}
    (said : List.Forall₂ (fun command outcome =>
      outcome.toOption = Host.helpText? (answer command width)) commands outcomes) :
    summaryEntries (commands.zip outcomes) = commands.filterMap (entryOf? answer width) := by
  induction said with
  | nil => rfl
  | @cons command outcome commands outcomes first rest ih =>
      rw [List.zip_cons_cons, summaryEntries, List.filterMap_cons, List.filterMap_cons, entryOf?,
        ← first]
      cases outcome with
      | error failure => exact ih
      | ok text => exact congrArg (_ :: ·) ih

/-! ## Pages -/

/-- What becomes of the page of a command in a batch that gives results: it is written when the
help text can be read, and there is a failure when it cannot. -/
inductive IsToldBy (answer : String → Int → Except Host.Fault Host.HelpFile) (width : Int)
    (dir : Path) (command : String) : Except Failure Path → Prop
  | page {text : String} {fields : Help.Fields}
      (said : Host.helpText? (answer command width) = some text)
      (read : Help.extract text = .ok fields) : IsToldBy answer width dir command
        (.ok (pagePath dir command))
  | failure {failure : Failure} (silent : Host.helpText? (answer command width) = none) :
      IsToldBy answer width dir command (.error failure)

theorem Temporary.helpText_of_failure {frame : Frame} {number : Nat}
    {answer : Except Host.Fault Host.HelpFile} {failure : Failure}
    (pageless : page frame number answer = .error failure) (own : failure.isPerCommand = true) :
    Host.helpText? answer = none := by
  rw [Host.helpText?, ← toOption_helpText number]
  unfold page fields at pageless
  cases said : helpText number answer with
  | error found => rfl
  | ok text =>
      rw [said] at pageless
      cases read : Help.extract text with
      | ok fields => simp [bind, Except.bind, Except.map, Except.mapError, read] at pageless
      | error fault =>
          simp only [bind, Except.bind, Except.map, Except.mapError, read,
            Except.error.injEq] at pageless
          rw [← pageless] at own
          cases own

/-- A page that begins with a header and a heading, and gives a synopsis as the paragraph that
stands in the next line, before the syntax. -/
def Page.GivesSynopsis (header synopsis : String) (page : Bytes) : Prop :=
  ∃ name rest, page = Text.encodeText (header ++ ("<h1>" ++ name ++ "</h1>\n" ++
    ("<p>" ++ synopsis ++ "</p>\n" ++ ("<h2>Syntax</h2>\n" ++ rest))))

theorem Page.givesSynopsis_render {fields : Help.Fields} {synopsis : String}
    (same : fields.synopsis = synopsis) (header footer : String) :
    GivesSynopsis header synopsis (Text.encodeText (render header footer fields)) := by
  subst same
  obtain ⟨lines, body⟩ : ∃ lines, bodyLines fields =
      ("<h1>" ++ fields.name ++ "</h1>") :: ("<p>" ++ fields.synopsis ++ "</p>") ::
        "<h2>Syntax</h2>" :: lines := ⟨_, rfl⟩
  refine ⟨fields.name, endLines lines ++ footer, congrArg Text.encodeText ?_⟩
  simp only [render, endLines, body, List.map_cons, String.join_cons, String.append_assoc]
  rfl

/-- A page shows what its help text says. -/
theorem Frame.ownPage_eq_some_iff {frame : Frame} {answer : Except Host.Fault Host.HelpFile}
    {bytes : Bytes} :
    frame.ownPage answer = some bytes ↔ ∃ text fields, Host.helpText? answer = some text ∧
      Help.extract text = .ok fields ∧
      bytes = Text.encodeText (Page.render frame.header frame.footer fields) := by
  unfold ownPage Host.helpText?
  cases Host.helpBytes answer with
  | none => simp
  | some help =>
      simp only [Option.bind_some, bind]
      cases (Text.decodeDocument help).toOption with
      | none => simp
      | some text =>
          cases read : Help.extract text <;> simp [Except.toOption, read, eq_comm]

section Pages

variable {settled : η → Prop} {host : Host η}
  {answer : String → Int → Except Host.Fault Host.HelpFile} (answers : host.Answers settled answer)
  {batch : Batch} {frame : Frame} {dir : Path} {total : Nat}
include answers

theorem PageTurn.isToldBy {index : Nat} {command : String} {w after : Workspace η}
    {outcome : Except Failure Path} (start : settled w.host)
    (turn : PageTurn host batch frame dir total index command w outcome after) :
    IsToldBy answer batch.width dir command outcome := by
  cases turn with
  | written reported page stored =>
      subst reported
      rw [answers.reply_announced start, Temporary.page_eq_ok_iff] at page
      obtain ⟨text, fields, said, read, _⟩ := Frame.ownPage_eq_some_iff.mp page
      exact .page said read
  | skipped reported pageless goes =>
      subst reported
      rw [answers.reply_announced start] at pageless
      exact .failure (Temporary.helpText_of_failure pageless (Bool.and_eq_true_iff.mp goes).1)

theorem isToldBy_of_turns {index : Nat} {commands : List String} {w v after : Workspace η}
    {outcomes : List (Except Failure Path)} (onward : w.Onward settled v)
    (turns : Batch.Turns (PageTurn host batch frame dir total) index commands v outcomes after) :
    List.Forall₂ (IsToldBy answer batch.width dir) commands outcomes := by
  induction turns with
  | done => exact .nil
  | next first rest ih =>
      exact .cons (first.isToldBy answers onward.settled) (ih (first.onward answers.keeps onward))

end Pages

/-! ## Links and files -/

theorem Summary.htmlItem_link (flagged : List String) (entry : Summary.Entry) :
    ∃ before after, Summary.htmlItem flagged entry =
      before ++ ("<a href=\"cmdlets/" ++ (entry.name ++ (".html\">" ++ after))) := by
  refine ⟨"<li>" ++ marker "<strong>" "</strong>" flagged entry,
    entry.name ++ ("</a> - " ++ (entry.synopsis ++ "</li>")), ?_⟩
  have regrouped (a b c d e f g h i : String) : a ++ b ++ c ++ d ++ e ++ f ++ g ++ h ++ i =
      a ++ b ++ (c ++ (d ++ (e ++ (f ++ (g ++ (h ++ i)))))) := by
    simp only [String.append_assoc]
  exact regrouped _ _ _ _ _ _ _ _ _

/-- An entry of a summary and the result of a page that belong together: the result is that of the
entry's command, the file written is the one that the item of the entry links to, and the page
shows the synopsis of the entry. -/
structure Summary.Entry.Agrees (answer : String → Int → Except Host.Fault Host.HelpFile)
    (width : Int) (frame : Frame) (dir : Path) (entry : Summary.Entry) (result : PageResult) :
    Prop where
  command : result.command = entry.name
  linked : ∀ flagged, ∃ before after, Summary.htmlItem flagged entry =
    before ++ ("<a href=\"cmdlets/" ++ (entry.name ++ (".html\">" ++ after)))
  written : result.outcome = .ok (dir.child (entry.name ++ ".html")).text
  shown : ∃ fields, fields.synopsis = entry.synopsis ∧
    frame.ownPage (answer entry.name width) =
      some (Text.encodeText (Page.render frame.header frame.footer fields))
  given : ∃ page, frame.ownPage (answer entry.name width) = some page ∧
    Page.GivesSynopsis frame.header entry.synopsis page

/-- The commands whose help texts can be read are those whose pages are written. -/
theorem forall₂_agrees {answer : String → Int → Except Host.Fault Host.HelpFile} {width : Int}
    {dir : Path} (frame : Frame) {commands : List String} {outcomes : List (Except Failure Path)}
    (told : List.Forall₂ (IsToldBy answer width dir) commands outcomes) :
    List.Forall₂ (Summary.Entry.Agrees answer width frame dir)
      (commands.filterMap (entryOf? answer width))
      ((pageResults (commands.zip outcomes)).filter (·.written)) := by
  induction told with
  | nil => exact .nil
  | @cons command outcome commands outcomes first rest ih =>
      rw [List.filterMap_cons, entryOf?]
      cases first with
      | page said read =>
          rw [said]
          have own : frame.ownPage (answer command width) = some _ :=
            Frame.ownPage_eq_some_iff.mpr ⟨_, _, said, read, rfl⟩
          have same := Help.extract_synopsis read
          refine .cons ⟨rfl, fun flagged => Summary.htmlItem_link flagged _, rfl,
            ⟨_, same, own⟩, ⟨_, own, ?_⟩⟩ ih
          exact Page.givesSynopsis_render same frame.header frame.footer
      | failure silent =>
          rw [silent]
          exact ih

theorem map_name_eq_map_command {answer : String → Int → Except Host.Fault Host.HelpFile}
    {width : Int} {frame : Frame} {dir : Path} {entries : List Summary.Entry}
    {results : List PageResult}
    (agree : List.Forall₂ (Summary.Entry.Agrees answer width frame dir) entries results) :
    entries.map (·.name) = results.map (·.command) := by
  induction agree with
  | nil => rfl
  | cons first rest ih => rw [List.map_cons, List.map_cons, first.command, ih]

section Files

variable {answer : String → Int → Except Host.Fault Host.HelpFile} {batch : Batch} {frame : Frame}
  {dir : Path} {w : Workspace η} {commands : List String}

/-- A command with a page of its own has a place for it. -/
theorem free_of_isOutcome {outcomes : List (Except Failure Path)}
    (kinds : List.Forall₂ (IsOutcome answer batch frame dir w) commands outcomes)
    {command : String} (member : command ∈ commands)
    (own : (frame.ownPage (answer command batch.width)).isSome) :
    w.store.at? (pagePlace dir w command) ≠ some .directory := by
  induction kinds with
  | nil => cases member
  | cons first rest ih =>
      rcases List.mem_cons.mp member with rfl | later
      · cases first with
        | page own place free => exact free
        | failure pageless =>
            rw [pageless] at own
            cases own
      · exact ih later

theorem isSome_ownPage_iff {outcomes : List (Except Failure Path)}
    (told : List.Forall₂ (IsToldBy answer batch.width dir) commands outcomes) {command : String}
    (member : command ∈ commands) :
    (frame.ownPage (answer command batch.width)).isSome ↔
      (entryOf? answer batch.width command).isSome := by
  induction told with
  | nil => cases member
  | cons first rest ih =>
      rcases List.mem_cons.mp member with rfl | later
      · cases first with
        | page said read =>
            rw [Frame.ownPage_eq_some_iff.mpr ⟨_, _, said, read, rfl⟩, entryOf?, said]
            simp
        | failure silent =>
            have pageless : frame.ownPage (answer command batch.width) = none := by
              rw [Option.eq_none_iff_forall_ne_some]
              intro bytes own
              obtain ⟨text, fields, said, _⟩ := Frame.ownPage_eq_some_iff.mp own
              rw [silent] at said
              cases said
            rw [pageless, entryOf?, silent]
            simp
      · exact ih later

/-- The page of a command stands in its place when no other command has the same place. -/
theorem at?_foldl_putPage_self {command : String} {page : Bytes} (member : command ∈ commands)
    (own : frame.ownPage (answer command batch.width) = some page)
    (free : w.store.at? (pagePlace dir w command) ≠ some .directory)
    (alone : ∀ other ∈ commands, (frame.ownPage (answer other batch.width)).isSome →
      pagePlace dir w other = pagePlace dir w command → other = command) (store : Files.Store) :
    (commands.foldl (putPage answer batch frame dir w) store).at? (pagePlace dir w command) =
      some (.file page) := by
  induction commands generalizing store with
  | nil => cases member
  | cons first others ih =>
      rw [List.foldl_cons]
      by_cases again : command ∈ others
      · exact ih again (fun other later => alone other (List.mem_cons_of_mem _ later)) _
      · have same : command = first := by
          rcases List.mem_cons.mp member with same | later
          · exact same
          · exact absurd later again
        have below : pagePlace dir w command ≠ [] := fun root => free (by rw [root]; rfl)
        rw [at?_foldl_putPage fun other later own place =>
          again (alone other (List.mem_cons_of_mem _ later) own place ▸ later), putPage, ← same,
          own]
        exact Files.Store.at?_put_self store below _

end Files

/-- A batch of pages for a name that is no command, seen from the workspace in which it started: its
commands, outcomes, reports and files. -/
theorem sequence_of_run_renderPages_ok {settled : η → Prop} {host : Host η}
    {replies : Host.Replies} (repeats : host.Repeats settled replies) {batch : Batch}
    {frame : Frame} {dir : Path} {module : String}
    (apart : replies.commandExists module ≠ .ok true) {v after : Workspace η} (fresh : v.Fresh)
    (start : settled v.host) {results : List PageResult}
    (rendered : (renderPages host batch frame dir module).run v = (.ok results, after)) :
    ∃ listing outcomes, replies.moduleCommands module = .ok listing ∧
      results = pageResults ((batch.keep listing).zip outcomes) ∧
      List.Forall₂ (IsToldBy replies.help batch.width dir) (batch.keep listing) outcomes ∧
      List.Forall₂ (IsOutcome replies.help batch frame dir v) (batch.keep listing) outcomes ∧
      after.progress =
        v.progress ++ batch.reportsFrom (batch.keep listing).length 1 (batch.keep listing) ∧
      after.store = (batch.keep listing).foldl (putPage replies.help batch frame dir v) v.store := by
  have answers := repeats.answers
  obtain ⟨there, commands, v₀, resolved⟩ := exists_of_run_renderPages_ok rendered
  obtain ⟨listing, listed, rfl⟩ := moduleCommands_of_resolve repeats start apart resolved
  obtain ⟨onward, questions, _, same⟩ := onward_of_resolved answers.keeps fresh start resolved
  obtain ⟨outcomes, last, turns, given, ended⟩ :=
    turns_of_run_renderPages_ok there resolved onward.fresh rendered
  have made : v₀.made = v.made + 0 := by rw [same]; rfl
  obtain ⟨_, sequence⟩ := isSequence_of_turns answers fresh start onward made turns
  refine ⟨listing, outcomes, listed, given, isToldBy_of_turns answers onward turns,
    sequence.kinds, ?_, ?_⟩
  · rw [← v.progress_talked questions ⟨v₀.host, v₀.log⟩, ← same, ended]
    exact sequence.progress
  · rw [ended, sequence.store, same]
    rfl

/-- **Summary and pages agree.**  Let the answers of the host depend on the questions alone, and
let the name of the module be no command.  When both batches give results, the entries of the
summary and the pages written belong together one by one, in order and with repetitions; both
batches make the same reports; the page that an entry links to is there, with the synopsis of the
entry, unless another command has the same place; and no other file has changed. -/
theorem collect_agrees_renderPages {settled : η → Prop} {host : Host η} {replies : Host.Replies}
    (repeats : host.Repeats settled replies) {batch : Batch} {frame : Frame} {dir : Path}
    {module : String} (apart : replies.commandExists module ≠ .ok true) {w v : Workspace η}
    (freshW : w.Fresh) (startW : settled w.host) (freshV : v.Fresh) (startV : settled v.host)
    {entries : List Summary.Entry} {results : List PageResult} {w' v' : Workspace η}
    (collected : (collect host batch module).run w = (.ok entries, w'))
    (rendered : (renderPages host batch frame dir module).run v = (.ok results, v')) :
    entries.map (·.name) = (results.filter (·.written)).map (·.command) ∧
    List.Forall₂ (Summary.Entry.Agrees replies.help batch.width frame dir) entries
      (results.filter (·.written)) ∧
    (∃ reports, w'.progress = w.progress ++ reports ∧ v'.progress = v.progress ++ reports) ∧
    (∀ entry ∈ entries, (∀ other ∈ entries,
        pagePlace dir v other.name = pagePlace dir v entry.name → other.name = entry.name) →
      ∃ fields page, fields.synopsis = entry.synopsis ∧
        page = Text.encodeText (Page.render frame.header frame.footer fields) ∧
        Page.GivesSynopsis frame.header entry.synopsis page ∧
        v'.store.at? (pagePlace dir v entry.name) = some (.file page)) ∧
    (∀ location, (∀ entry ∈ entries, pagePlace dir v entry.name ≠ location) →
      v'.store.at? location = v.store.at? location) := by
  obtain ⟨listing, texts, last, talk, listed, settledTalk, turns, rfl, reported⟩ :=
    turns_of_run_collect_ok repeats startW collected
  have fresh := freshW.talked [.moduleExists module, .moduleCommands module] talk
  obtain ⟨said, reports⟩ := fetched_of_turns repeats.answers fresh settledTalk turns
  obtain ⟨found, outcomes, again, rfl, told, kinds, progress, store⟩ :=
    sequence_of_run_renderPages_ok repeats apart freshV startV rendered
  obtain rfl : listing = found := Except.ok.inj (listed.symm.trans again)
  rw [summaryEntries_eq said]
  have agree := forall₂_agrees frame told
  have listedOf {command : String} (member : command ∈ batch.keep listing)
      (own : (frame.ownPage (replies.help command batch.width)).isSome) :
      ∃ entry ∈ (batch.keep listing).filterMap (entryOf? replies.help batch.width),
        entry.name = command := by
    obtain ⟨entry, given⟩ := Option.isSome_iff_exists.mp ((isSome_ownPage_iff told member).mp own)
    obtain ⟨text, _, rfl⟩ := Option.map_eq_some_iff.mp given
    exact ⟨_, List.mem_filterMap.mpr ⟨command, member, given⟩, rfl⟩
  refine ⟨map_name_eq_map_command agree, agree, ⟨_, ?_, progress⟩, ?_, ?_⟩
  · rw [reported, reports, Workspace.progress_talked]
  · intro entry member alone
    obtain ⟨command, taken, given⟩ := List.mem_filterMap.mp member
    have own : (frame.ownPage (replies.help command batch.width)).isSome :=
      (isSome_ownPage_iff told taken).mpr (by rw [given]; rfl)
    obtain ⟨text, said, rfl⟩ := Option.map_eq_some_iff.mp given
    obtain ⟨page, shown⟩ := Option.isSome_iff_exists.mp own
    obtain ⟨other, fields, same, read, rfl⟩ := Frame.ownPage_eq_some_iff.mp shown
    obtain rfl : other = text := Option.some.inj (same.symm.trans said)
    have same := Help.extract_synopsis read
    refine ⟨fields, _, same, rfl, Page.givesSynopsis_render same _ _, ?_⟩
    rw [store]
    refine at?_foldl_putPage_self taken shown (free_of_isOutcome kinds taken own) ?_ _
    intro other later own place
    obtain ⟨entry, member, rfl⟩ := listedOf later own
    exact alone entry member place
  · intro location elsewhere
    rw [store]
    refine at?_foldl_putPage (fun command taken own => ?_) _
    obtain ⟨entry, member, rfl⟩ := listedOf taken own
    exact elsewhere entry member

/-- A batch of pages without oversized numbers gives results. -/
theorem returns_of_small {settled : η → Prop} {host : Host η}
    {answer : String → Int → Except Host.Fault Host.HelpFile}
    (answers : host.Answers settled answer) (honest : host.IsHonest settled) {batch : Batch}
    (isolating : batch.failFast = false) (frame : Frame) {dir : Path} {name : String}
    {w w₀ : Workspace η} {commands : List String} (fresh : w.Fresh) (start : settled w.host)
    (there : w.store.isDirectory w.here dir = .ok true)
    (resolved : (resolve host batch name).run w = (.ok commands, w₀))
    (free : ∀ command ∈ commands, w.CanWrite (pagePath dir command))
    (small : ∀ command ∈ commands, oversizedIn (answer command batch.width) = none) :
    ∃ results after, (renderPages host batch frame dir name).run w = (.ok results, after) := by
  rcases returns_or_comesTo honest frame fresh start there resolved isolating free with
    ⟨results, after, ran, _⟩ | ⟨count, done, command, others, outcomes, middle, same, turns, large⟩
  · exact ⟨results, after, ran⟩
  · have onward := (onward_of_resolved answers.keeps fresh start resolved).1
    have ends := (turns_of_pageTurns answers.keeps onward turns).1
    rw [answers.reply_announced ends.settled, small command (by simp [same])] at large
    cases large

def listedHost : Host.Catalogue where
  modules := [("Tools", ["Get-A", "Get-B", "Get-A"])]
  help := [
    ("Get-A", .text (Text.encodeText (String.ofList "SYNOPSIS\n    Gets.\n".toList))),
    ("Get-B", .fails "gone")
  ]

def listedWorkspace : Workspace Host.Catalogue where
  store := ⟨[(["out"], .directory), (["out", "Get-B.html"], .file [111])]⟩
  host := listedHost

theorem collect_agrees_renderPages_listed :
    ∃ entries results w' v',
      (collect Host.catalogue {} "Tools").run listedWorkspace = (.ok entries, w') ∧
      (renderPages Host.catalogue {} {} ⟨.here, ["out"]⟩ "Tools").run listedWorkspace =
        (.ok results, v') ∧
      entries = [⟨"Get-A", "Gets."⟩, ⟨"Get-A", "Gets."⟩] ∧
      ["Get-A", "Get-A"] = (results.filter (·.written)).map (·.command) ∧
      ∃ page, v'.store.at? ["out", "Get-A.html"] = some (.file page) ∧
        Page.GivesSynopsis "" "Gets." page := by
  have fresh : listedWorkspace.Fresh := fun file member => by cases member
  have calm : ∀ command message, listedHost.help.lookup command ≠ some (.crashes message) := by
    intro command message crashes
    unfold listedHost at crashes
    rw [List.lookup_cons] at crashes
    split at crashes
    · cases crashes
    · rw [List.lookup_cons] at crashes
      split at crashes <;> cases crashes
  have small : ∀ command ∈ ["Get-A", "Get-B", "Get-A"],
      oversizedIn (Host.catalogueAnswer listedHost.help command 500) = none := by
    decide +kernel
  have free : ∀ command ∈ ["Get-A", "Get-B", "Get-A"],
      listedWorkspace.CanWrite (pagePath ⟨.here, ["out"]⟩ command) := by
    intro command member
    simp only [List.mem_cons, List.not_mem_nil, or_false] at member
    rcases member with rfl | rfl | rfl
    · exact ⟨["out", "Get-A.html"], Files.Store.locate_of_walk (by decide) (by decide) rfl,
        by decide⟩
    · exact ⟨["out", "Get-B.html"], Files.Store.locate_of_walk (by decide) (by decide) rfl,
        by decide⟩
    · exact ⟨["out", "Get-A.html"], Files.Store.locate_of_walk (by decide) (by decide) rfl,
        by decide⟩
  have there : listedWorkspace.store.isDirectory listedWorkspace.here ⟨.here, ["out"]⟩ =
      .ok true :=
    Files.Store.isDirectory_eq_true_iff.mpr
      ⟨["out"], Files.Store.locate_of_walk (by decide) (by decide) rfl, rfl⟩
  obtain ⟨found, resolved⟩ : ∃ found, (resolve Host.catalogue {} "Tools").run listedWorkspace =
      (.ok ["Get-A", "Get-B", "Get-A"], found) := ⟨_, rfl⟩
  obtain ⟨results, v', rendered⟩ := returns_of_small (Host.answers_catalogue listedHost.help)
    (Host.isHonest_catalogue calm) rfl {} fresh ⟨rfl, rfl⟩ there resolved free small
  have listed : ((collect Host.catalogue {} "Tools").run listedWorkspace).1.toOption =
      some [⟨"Get-A", "Gets."⟩, ⟨"Get-A", "Gets."⟩] := by decide +kernel
  obtain ⟨w', collected⟩ : ∃ w', (collect Host.catalogue {} "Tools").run listedWorkspace =
      (.ok [⟨"Get-A", "Gets."⟩, ⟨"Get-A", "Gets."⟩], w') := by
    cases ran : (collect Host.catalogue {} "Tools").run listedWorkspace with
    | mk outcome w' =>
        rw [ran] at listed
        cases outcome with
        | error failure => cases listed
        | ok entries => exact ⟨w', by rw [Option.some.inj listed]⟩
  have agree := collect_agrees_renderPages
    (Host.repeats_catalogue listedHost.modules listedHost.help) (by decide) fresh ⟨rfl, rfl, rfl⟩
    fresh ⟨rfl, rfl, rfl⟩ collected rendered
  have led : listedWorkspace.store.locate listedWorkspace.here
      (pagePath ⟨.here, ["out"]⟩ "Get-A") = .ok ["out", "Get-A.html"] :=
    Files.Store.locate_of_walk (by decide) (by decide) rfl
  have place : pagePlace ⟨.here, ["out"]⟩ listedWorkspace "Get-A" = ["out", "Get-A.html"] := by
    simp only [pagePlace, led]
  obtain ⟨_, page, _, _, given, stored⟩ := agree.2.2.2.1 ⟨"Get-A", "Gets."⟩
    (List.mem_cons_self ..) (by simp)
  exact ⟨_, results, w', v', collected, rendered, rfl, agree.1, page, place ▸ stored, given⟩

end CommandDocs

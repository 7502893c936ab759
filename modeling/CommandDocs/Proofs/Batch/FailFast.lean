import CommandDocs.Proofs.Batch.Agreement
import CommandDocs.Proofs.Workspace.Course

/-!
# Stopping at the first failure

A batch that stops at the first failure of a command does what the same batch does that goes on
after such failures, as long as no command fails on its own account.  At the first one that does,
it is cut short: everything up to that command is the same, and nothing comes after it.
-/

namespace CommandDocs

open Files (Path)

variable {η α β : Type}

namespace Batch

def stopping (batch : Batch) : Batch :=
  { batch with failFast := true }

/-- The batch that goes on after the failures of commands. -/
def isolating (batch : Batch) : Batch :=
  { batch with failFast := false }

theorem goesOn_stopping (batch : Batch) (failure : Failure) :
    batch.stopping.goesOn failure = false :=
  Bool.and_false _

theorem goesOn_isolating (batch : Batch) (failure : Failure) :
    batch.isolating.goesOn failure = failure.isPerCommand :=
  Bool.and_true _

variable (batch : Batch) (step : String → Act η α) (warning : String → Failure → String)
  (total : Nat)

/-- A batch comes to the first command that fails on its own account: the steps of the commands
done before, taken from a number on, give values, and that of the command leaves off with the
failure. -/
inductive Stumbles : Nat → List String → String → Workspace η → Failure → Workspace η → Prop
  | here {index : Nat} {command : String} {w after : Workspace η} {failure : Failure}
      (ran : (step command).run (batch.announced total index command w) = (.error failure, after))
      (own : failure.isPerCommand = true) : Stumbles index [] command w failure after
  | later {index : Nat} {first command : String} {done : List String}
      {w middle after : Workspace η} {value : α} {failure : Failure}
      (ran : (step first).run (batch.announced total index first w) = (.ok value, middle))
      (rest : Stumbles (index + 1) done command middle failure after) :
      Stumbles index (first :: done) command w failure after

/-- A batch comes to a command that fails on its own account. -/
def ComesToFailure (commands : List String) (w : Workspace η) : Prop :=
  ∃ done command others failure after, commands = done ++ command :: others ∧
    batch.Stumbles step total 1 done command w failure after

/-- Without a failure of a command's own, both batches do the same. -/
theorem run_stopping_eq_or_stumbles (index : Nat) (commands : List String) (w : Workspace η) :
    (batch.stopping.run step warning total index commands).run w =
        (batch.isolating.run step warning total index commands).run w ∨
      ∃ done command others failure after, commands = done ++ command :: others ∧
        batch.Stumbles step total index done command w failure after := by
  induction commands generalizing index w with
  | nil => exact Or.inl rfl
  | cons command commands ih =>
      cases ran : (step command).run (batch.announced total index command w) with
      | mk outcome middle =>
          cases outcome with
          | ok value =>
              have stopping : batch.stopping.Turn step warning total index command w (.ok value)
                middle := .kept ran
              have isolating : batch.isolating.Turn step warning total index command w (.ok value)
                middle := .kept ran
              rcases ih (index + 1) middle with
                same | ⟨done, last, others, failure, after, rfl, rest⟩
              · refine Or.inl ?_
                rw [run_cons_of_turn stopping, run_cons_of_turn isolating, same]
              · exact Or.inr ⟨command :: done, last, others, failure, after, rfl, .later ran rest⟩
          | error failure =>
              cases own : failure.isPerCommand with
              | true => exact Or.inr ⟨[], command, commands, failure, middle, rfl, .here ran own⟩
              | false =>
                  have stopping : (step command).run
                    (batch.stopping.announced total index command w) = (.error failure, middle) :=
                      ran
                  have isolating : (step command).run
                    (batch.isolating.announced total index command w) = (.error failure, middle) :=
                      ran
                  refine Or.inl ?_
                  rw [run_cons_of_stop stopping (goesOn_stopping batch failure),
                    run_cons_of_stop isolating ((goesOn_isolating batch failure).trans own)]

variable {batch step total} {index : Nat} {done : List String} {command : String}
  {w after : Workspace η} {failure : Failure}

theorem Stumbles.run_stopping
    (stumbles : batch.Stumbles step total index done command w failure after)
    (others : List String) :
    (batch.stopping.run step warning total index (done ++ command :: others)).run w =
      (.error failure, after) := by
  induction stumbles with
  | @here index command w after failure ran own =>
      have stopping : (step command).run (batch.stopping.announced total index command w) =
        (.error failure, after) := ran
      exact run_cons_of_stop stopping (goesOn_stopping batch failure) others
  | @later index first command done w middle after value failure ran rest ih =>
      have turn : batch.stopping.Turn step warning total index first w (.ok value) middle :=
        .kept ran
      rw [List.cons_append, run_cons_of_turn turn, ih]
      rfl

end Batch

def Workspace.warned (w : Workspace η) (text : String) : Workspace η :=
  { w with log := w.log ++ [⟨.warning, text⟩] }

namespace Batch

variable {batch : Batch} {step : String → Act η α} {total index : Nat} {done : List String}
  {command : String} {w after : Workspace η} {failure : Failure}

/-- The batch that goes on leaves a warning and takes the other commands from there. -/
theorem Stumbles.run_isolating (warning : String → Failure → String)
    (stumbles : batch.Stumbles step total index done command w failure after) :
    ∃ outcomes, ∀ others,
      (batch.isolating.run step warning total index (done ++ command :: others)).run w =
        (((batch.isolating.run step warning total (index + done.length + 1) others).run
            (after.warned (warning command failure))).1.map (outcomes ++ ·),
          ((batch.isolating.run step warning total (index + done.length + 1) others).run
            (after.warned (warning command failure))).2) := by
  induction stumbles with
  | @here index command w after failure ran own =>
      have turn : batch.isolating.Turn step warning total index command w (.error failure)
          (after.warned (warning command failure)) :=
        .skipped ran ((goesOn_isolating batch failure).trans own)
      exact ⟨[(command, .error failure)], fun others => run_cons_of_turn turn others⟩
  | @later index first command done w middle after value failure ran rest ih =>
      have turn : batch.isolating.Turn step warning total index first w (.ok value) middle :=
        .kept ran
      obtain ⟨outcomes, goes⟩ := ih
      refine ⟨(first, .ok value) :: outcomes, fun others => ?_⟩
      have shift : index + (first :: done).length + 1 = index + 1 + done.length + 1 := by
        simp only [List.length_cons]
        omega
      rw [List.cons_append, run_cons_of_turn turn, goes others, shift]
      cases ((batch.isolating.run step warning total (index + 1 + done.length + 1) others).run
        (after.warned (warning command failure))).1 <;> rfl

end Batch

/-! ## What has been asked and reported -/

namespace Host

/-- A host that keeps a record of the calls that it gets in a batch. -/
structure Records (host : Host η) (calls : η → List Recorded) : Prop where
  commandExists : ∀ name (talk : Talk η),
    calls ((host.commandExists name).run talk).2.state = calls talk.state ++ [.commandExists name]
  moduleExists : ∀ name (talk : Talk η),
    calls ((host.moduleExists name).run talk).2.state = calls talk.state ++ [.moduleExists name]
  moduleCommands : ∀ name (talk : Talk η),
    calls ((host.moduleCommands name).run talk).2.state =
      calls talk.state ++ [.moduleCommands name]
  writeHelp : ∀ command path width (talk : Talk η),
    calls ((host.writeHelp command path width).run talk).2.state =
      calls talk.state ++ [.writeHelp command path width]

/-- The catalogue keeps a record of its calls, whether it is up or down. -/
theorem records_catalogue : catalogue.Records (·.calls) where
  commandExists := by
    rintro name ⟨⟨modules, help, down, fails, calls⟩, log⟩
    cases down <;> rfl
  moduleExists := by
    rintro name ⟨⟨modules, help, down, fails, calls⟩, log⟩
    cases down <;> rfl
  moduleCommands := by
    rintro name ⟨⟨modules, help, down, fails, calls⟩, log⟩
    cases down <;> rfl
  writeHelp := by
    rintro command path width ⟨⟨modules, help, down, fails, calls⟩, log⟩
    cases down with
    | some message => rfl
    | none => rw [run_writeHelp_catalogue rfl, Catalogue.recorded]

/-- The calls in which the help of some commands is printed, each to a temporary file of its
own. -/
def helpCalls (made : Nat) (width : Int) (commands : List String) : List Recorded :=
  commands.mapIdx fun k command => .writeHelp command (Temporary.path (made + k + 1)) width

theorem helpCalls_cons (made : Nat) (width : Int) (command : String) (commands : List String) :
    helpCalls made width (command :: commands) =
      .writeHelp command (Temporary.path (made + 1)) width ::
        helpCalls (made + 1) width commands := by
  simp only [helpCalls, List.mapIdx_cons, Nat.add_assoc, Nat.add_comm 1]

end Host

/-- What is done for one command: the host is asked for its help, once, with a new temporary file,
and there is no report and no warning. -/
structure Workspace.AsksFor (host : Host η) (width : Int) (command : String)
    (w after : Workspace η) : Prop where
  state : after.host = (w.helpCall host width command).2.state
  made : after.made = w.made + 1
  progress : after.progress = w.progress
  warnings : host.IsQuiet → warningsIn after.log = warningsIn w.log

/-- What is done without the host, without a temporary file, and without a report or a warning. -/
structure Workspace.Aside (w after : Workspace η) : Prop where
  state : after.host = w.host
  made : after.made = w.made
  progress : after.progress = w.progress
  warnings : warningsIn after.log = warningsIn w.log

theorem asksFor_fetchHelp {host : Host η} {width : Int} {command : String} {w after : Workspace η}
    {outcome : Except Failure String}
    (ran : (fetchHelp host width command).run w = (outcome, after)) :
    w.AsksFor host width command after := by
  have warnings (quiet : host.IsQuiet) :
      warningsIn ((w.helpCall host width command).2.log ++
        [⟨.debug, "Removed help extract for " ++ command⟩]) = warningsIn w.log := by
    rw [warningsIn_append, Workspace.helpCall, quiet]
    exact List.append_nil _
  have ended := snd_run_fetchHelp host width command w
  rw [ran] at ended
  dsimp only at ended
  subst ended
  exact ⟨rfl, rfl, w.progress_fetched host width command, warnings⟩

/-- What is done with a help text to make a page of it. -/
def pageFrom (frame : Frame) (p : Path) (text : String) : Act η Path := do
  noteParameters text
  match Help.extract text with
  | .error fault => throw (.number fault)
  | .ok fields =>
      Act.writeText p (Page.render frame.header frame.footer fields)
      Act.note .debug ("Wrote " ++ p.text)
      return p

theorem renderPage_eq (host : Host η) (width : Int) (frame : Frame) (dir : Path)
    (command : String) :
    renderPage host width frame dir command =
      fetchHelp host width command >>= pageFrom frame (pagePath dir command) := by
  unfold renderPage fetchFields
  rw [bind_assoc]
  refine congrArg _ (funext fun text => ?_)
  unfold pageFrom
  rw [bind_assoc]
  refine congrArg _ (funext fun _ => ?_)
  cases Help.extract text <;> rfl

theorem aside_pageFrom (frame : Frame) (p : Path) (text : String) (w : Workspace η) :
    w.Aside ((pageFrom frame p text).run w).2 := by
  have quiet : warningsIn (w.log ++ parameterNotes text) = warningsIn w.log := by
    rw [warningsIn_append]
    unfold parameterNotes
    cases Help.parametersSection? (Help.linesOf text) <;> exact List.append_nil _
  unfold pageFrom
  rw [run_bind_of_ok (run_noteParameters text w)]
  generalize noted : { w with log := w.log ++ parameterNotes text } = v
  have aside : w.Aside v := by
    subst noted
    exact ⟨rfl, rfl, rfl, quiet⟩
  cases Help.extract text with
  | error fault => exact aside
  | ok fields =>
      dsimp only
      cases written : v.store.write v.here p
          (Text.encodeText (Page.render frame.header frame.footer fields)) with
      | error fault =>
          rw [run_bind_of_error (Act.run_writeText_of_error written)]
          exact aside
      | ok store =>
          rw [run_bind_of_ok (Act.run_writeText_of_ok written)]
          refine ⟨aside.state, aside.made, aside.progress, Eq.trans ?_ aside.warnings⟩
          exact (warningsIn_append _ _).trans (List.append_nil _)

theorem asksFor_renderPage {host : Host η} {width : Int} {frame : Frame} {dir : Path}
    {command : String} {w after : Workspace η} {outcome : Except Failure Path}
    (ran : (renderPage host width frame dir command).run w = (outcome, after)) :
    w.AsksFor host width command after := by
  rw [renderPage_eq, run_bind] at ran
  cases fetched : (fetchHelp host width command).run w with
  | mk found middle =>
      have asked := asksFor_fetchHelp fetched
      rw [fetched] at ran
      cases found with
      | error failure =>
          cases ran
          exact asked
      | ok text =>
          have aside := aside_pageFrom frame (pagePath dir command) text middle
          dsimp only at ran
          rw [ran] at aside
          exact ⟨aside.state.trans asked.state, aside.made.trans asked.made,
            aside.progress.trans asked.progress,
            fun quiet => aside.warnings.trans (asked.warnings quiet)⟩

theorem Workspace.AsksFor.calls_eq {host : Host η} {calls : η → List Host.Recorded}
    (records : host.Records calls) {width : Int} {command : String} {w after : Workspace η}
    (asked : w.AsksFor host width command after) :
    calls after.host =
      calls w.host ++ [.writeHelp command (Temporary.path (w.made + 1)) width] := by
  rw [asked.state]
  exact records.writeHelp command (Temporary.path (w.made + 1)) width ⟨w.host, w.log⟩

theorem Batch.reportsFrom_nil (batch : Batch) (total index : Nat) :
    batch.reportsFrom total index [] = [] := by
  unfold reportsFrom
  split <;> rfl

namespace Batch.Stumbles

variable {batch : Batch} {step : String → Act η α} {total index : Nat} {done : List String}
  {command : String} {w after : Workspace η} {failure : Failure} {host : Host η} {width : Int}
  (asks : ∀ {command outcome} {w after : Workspace η},
    (step command).run w = (outcome, after) → w.AsksFor host width command after)
  (stumbles : batch.Stumbles step total index done command w failure after)
include asks stumbles

/-- Up to the failure every command is reported in turn, and none after it. -/
theorem progress_eq :
    after.progress = w.progress ++ batch.reportsFrom total index (done ++ [command]) := by
  induction stumbles with
  | @here index command w after failure ran own =>
      rw [(asks ran).progress, List.nil_append, Batch.reportsFrom_cons, Batch.reportsFrom_nil,
        List.append_nil, Batch.progress_announced]
  | @later index first command done w middle after value failure ran rest ih =>
      rw [ih, (asks ran).progress, List.cons_append, Batch.reportsFrom_cons, ← List.append_assoc,
        Batch.progress_announced]

/-- Up to the failure the host is asked for the help of every command in turn, and for nothing
else. -/
theorem calls_eq {calls : η → List Host.Recorded} (records : host.Records calls) :
    calls after.host = calls w.host ++ Host.helpCalls w.made width (done ++ [command]) := by
  induction stumbles with
  | here ran own => exact (asks ran).calls_eq records
  | later ran rest ih =>
      rw [ih, (asks ran).calls_eq records, (asks ran).made, List.cons_append, Host.helpCalls_cons,
        List.append_assoc]
      rfl

theorem warnings_eq (quiet : host.IsQuiet) : warningsIn after.log = warningsIn w.log := by
  induction stumbles with
  | here ran own => exact (asks ran).warnings quiet
  | later ran rest ih => exact ih.trans ((asks ran).warnings quiet)

end Batch.Stumbles

/-! ## Programs -/

/-- A program that finds commands and takes them in a batch, whether or not the batch stops at the
first failure. -/
structure Batch.Drives (batch : Batch) (program : Batch → Act η β) (find : Act η (List String))
    (step : String → Act η α) (warning : String → Failure → String)
    (finish : List String → List (String × Except Failure α) → Act η β) : Prop where
  stopping : program batch.stopping = find >>= fun commands =>
    batch.stopping.run step warning commands.length 1 commands >>= finish commands
  isolating : program batch.isolating = find >>= fun commands =>
    batch.isolating.run step warning commands.length 1 commands >>= finish commands

/-- How a program finds the commands whose pages it writes. -/
def pageCommands (host : Host η) (batch : Batch) (dir : Path) (name : String) :
    Act η (List String) :=
  requireOutput dir >>= fun _ => resolve host batch name

/-- How a program finds the commands that it lists. -/
def summaryCommands (host : Host η) (batch : Batch) (module : String) : Act η (List String) := do
  if ← Act.ask (.moduleExists module) (host.moduleExists module) then
    return batch.keep (← Act.ask (.moduleCommands module) (host.moduleCommands module))
  else throw (.unknownModule module)

def pageEnd (commands : List String) (outcomes : List (String × Except Failure Path)) :
    Act η (List PageResult) := do
  Act.note .info ("Rendered " ++ toString ((pageResults outcomes).countP (·.written)) ++ "/" ++
    toString commands.length ++ " command page(s)")
  return pageResults outcomes

def summaryEnd (module : String) (commands : List String)
    (outcomes : List (String × Except Failure String)) : Act η (List Summary.Entry) := do
  Act.note .debug ("Collected " ++ toString (summaryEntries outcomes).length ++ "/" ++
    toString commands.length ++ " command(s) from " ++ module)
  return summaryEntries outcomes

theorem renderPages_eq (host : Host η) (batch : Batch) (frame : Frame) (dir : Path)
    (name : String) :
    renderPages host batch frame dir name = pageCommands host batch dir name >>= fun commands =>
      batch.run (renderPage host batch.width frame dir) skipping commands.length 1 commands >>=
        pageEnd commands := by
  rw [pageCommands, bind_assoc]
  rfl

theorem collect_eq (host : Host η) (batch : Batch) (module : String) :
    collect host batch module = summaryCommands host batch module >>= fun commands =>
      batch.run (fetchHelp host batch.width) (leavingOut module) commands.length 1 commands >>=
        summaryEnd module commands := by
  unfold collect summaryCommands
  rw [bind_assoc]
  refine congrArg _ (funext fun there => ?_)
  cases there with
  | false => rfl
  | true =>
      rw [if_pos rfl, if_pos rfl, bind_assoc]
      rfl

/-- A run that is cut short by the failure of a command, beside the same run that goes on, both
seen from the workspace in which their commands have been found.  The first is what the second is
when it has taken that command, but for the warning; the second goes on from there. -/
structure CutShort (host : Host η) (batch : Batch) (step : String → Act η α)
    (warning : String → Failure → String)
    (finish : List (String × Except Failure α) → Act η β) (total : Nat) (done : List String)
    (command : String) (others : List String) (failure : Failure) (w after : Workspace η)
    (stopped isolated : Except Failure β × Workspace η) : Prop where
  stopped : stopped = (.error failure, after)
  isolated : ∃ outcomes,
    (batch.isolating.run step warning total 1 (done ++ [command])).run w =
        (.ok outcomes, after.warned (warning command failure)) ∧
      isolated = (batch.isolating.run step warning total (1 + done.length + 1) others >>=
        fun more => finish (outcomes ++ more)).run (after.warned (warning command failure))
  progress : after.progress = w.progress ++ batch.reportsFrom total 1 (done ++ [command])
  calls : ∀ calls, host.Records calls →
    calls after.host = calls w.host ++ Host.helpCalls w.made batch.width (done ++ [command])
  warnings : host.IsQuiet → warningsIn after.log = warningsIn w.log

/-- A program that does the same whether or not it stops at the first failure of a command, unless
there is one; and that is cut short by the first one if it stops there. -/
structure StopsAtFirst (host : Host η) (batch : Batch) (program : Batch → Act η β)
    (find : Act η (List String)) (step : String → Act η α)
    (warning : String → Failure → String)
    (finish : List String → List (String × Except Failure α) → Act η β) (w : Workspace η) :
    Prop where
  same : (∀ commands w₀, find.run w = (.ok commands, w₀) →
      ¬batch.ComesToFailure step commands.length commands w₀) →
    (program batch.stopping).run w = (program batch.isolating).run w
  cut : ∀ done command others failure w₀ after,
    find.run w = (.ok (done ++ command :: others), w₀) →
    batch.Stumbles step (done ++ command :: others).length 1 done command w₀ failure after →
      CutShort host batch step warning (finish (done ++ command :: others))
        (done ++ command :: others).length done command others failure w₀ after
        ((program batch.stopping).run w) ((program batch.isolating).run w)

theorem Batch.Drives.stopsAtFirst {host : Host η} {batch : Batch} {program : Batch → Act η β}
    {find : Act η (List String)} {step : String → Act η α} {warning : String → Failure → String}
    {finish : List String → List (String × Except Failure α) → Act η β}
    (drives : batch.Drives program find step warning finish)
    (asks : ∀ {command outcome} {w after : Workspace η},
      (step command).run w = (outcome, after) → w.AsksFor host batch.width command after)
    (w : Workspace η) :
    StopsAtFirst host batch program find step warning finish w where
  same smooth := by
    rw [drives.stopping, drives.isolating, run_bind, run_bind]
    cases found : find.run w with
    | mk outcome w₀ =>
        cases outcome with
        | error failure => rfl
        | ok commands =>
            dsimp only
            rw [run_bind, run_bind]
            rcases run_stopping_eq_or_stumbles batch step warning commands.length 1 commands w₀ with
              equal | stumbles
            · rw [equal]
            · exact absurd stumbles (smooth commands w₀ found)
  cut done command others failure w₀ after found stumbles := by
    obtain ⟨outcomes, goes⟩ := stumbles.run_isolating warning
    refine ⟨?_, ⟨outcomes, ?_, ?_⟩, stumbles.progress_eq asks, fun calls records =>
      stumbles.calls_eq asks records, stumbles.warnings_eq asks⟩
    · rw [drives.stopping, run_bind_of_ok found]
      exact run_bind_of_error (stumbles.run_stopping warning others)
    · rw [goes []]
      exact congrArg (Except.ok · , _) (List.append_nil outcomes)
    · rw [drives.isolating, run_bind_of_ok found, run_bind, goes others, run_bind]
      cases (batch.isolating.run step warning (done ++ command :: others).length
          (1 + done.length + 1) others).run (after.warned (warning command failure)) with
      | mk outcome last => cases outcome <;> rfl

/-- **Stopping at the first failure is a prefix of going on.**  Let the pages of a name be written,
or the entries of a module be collected, once with a batch that stops at the first failure of a
command and once with the batch that goes on, from the same workspace.  When no command fails on
its own account, both runs are the same: result or failure, files, host, reports and log.
Otherwise the first run ends with the failure of the first such command.  Up to that command both
runs have done the same, but that the second has logged a warning for it; no later command has been
reported or asked for, and the second run goes on from there. -/
theorem stopping_cutShort_isolating (host : Host η) (batch : Batch) (frame : Frame) (dir : Path)
    (name : String) (w : Workspace η) :
    StopsAtFirst host batch (fun batch => renderPages host batch frame dir name)
      (pageCommands host batch dir name) (renderPage host batch.width frame dir) skipping pageEnd
      w ∧
    StopsAtFirst host batch (fun batch => collect host batch name)
      (summaryCommands host batch name) (fetchHelp host batch.width) (leavingOut name)
      (summaryEnd name) w := by
  constructor
  · have drives : batch.Drives (fun batch => renderPages host batch frame dir name)
        (pageCommands host batch dir name) (renderPage host batch.width frame dir) skipping
        pageEnd :=
      ⟨renderPages_eq host batch.stopping frame dir name,
        renderPages_eq host batch.isolating frame dir name⟩
    exact drives.stopsAtFirst asksFor_renderPage w
  · have drives : batch.Drives (fun batch => collect host batch name)
        (summaryCommands host batch name) (fetchHelp host batch.width) (leavingOut name)
        (summaryEnd name) :=
      ⟨collect_eq host batch.stopping name, collect_eq host batch.isolating name⟩
    exact drives.stopsAtFirst asksFor_fetchHelp w

theorem Temporary.helpText_written {bytes : Files.Bytes} {text : String}
    (decoded : Text.decodeDocument bytes = .ok text) (number : Nat) :
    helpText number (.ok (.written bytes)) = .ok text := by
  simp only [helpText, content, helpTextOf, decoded]

/-- A command with help, one that fails, and the first one again: the run that stops has asked for
the first two and reported them. -/
theorem stopping_cutShort_isolating_listed :
    ∃ after, (collect Host.catalogue ({} : Batch).stopping "Tools").run listedWorkspace =
        (.error (.host (.reported "gone")), after) ∧
      after.host.calls = [.moduleExists "Tools", .moduleCommands "Tools",
        .writeHelp "Get-A" (Temporary.path 1) 500, .writeHelp "Get-B" (Temporary.path 2) 500] ∧
      after.progress = [⟨1, 3, "Get-A"⟩, ⟨2, 3, "Get-B"⟩] := by
  obtain ⟨w₀, found, start⟩ : ∃ w₀, (summaryCommands Host.catalogue {} "Tools").run
      listedWorkspace = (.ok ["Get-A", "Get-B", "Get-A"], w₀) ∧
        w₀ = { listedWorkspace with
          host := { listedHost with calls := [.moduleExists "Tools", .moduleCommands "Tools"] }
          events := [.asked (.moduleExists "Tools"), .asked (.moduleCommands "Tools")] } :=
    ⟨_, rfl, rfl⟩
  have fresh : w₀.Fresh := by
    subst start
    exact fun file member => by cases member
  have text := Temporary.helpText_written
    (Text.decodeDocument_encodeText (c := 'S') (by decide) "YNOPSIS\n    Gets.\n".toList) 1
  obtain ⟨after, stumbles⟩ : ∃ after, ({} : Batch).Stumbles (fetchHelp Host.catalogue 500) 3 1
      ["Get-A"] "Get-B" w₀ (.host (.reported "gone")) after := by
    have first := fresh.announced {} 3 1 "Get-A"
    have second := (first.fetched Host.catalogue 500 "Get-A").announced {} 3 2 "Get-B"
    have printed := run_fetchHelp first Host.catalogue 500 "Get-A"
    have failed := run_fetchHelp second Host.catalogue 500 "Get-B"
    subst start
    exact ⟨_, .later (printed.trans (congrArg (·, _) text)) (.here (failed.trans rfl) rfl)⟩
  have cut := (stopping_cutShort_isolating Host.catalogue {} {} ⟨.here, []⟩ "Tools"
    listedWorkspace).2.cut ["Get-A"] "Get-B" ["Get-A"] _ w₀ after found stumbles
  have calls := cut.calls _ Host.records_catalogue
  have progress := cut.progress
  subst start
  exact ⟨after, cut.stopped, calls, progress⟩

end CommandDocs

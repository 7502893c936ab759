import CommandDocs.Proofs.Batch.Pages

/-!
# Before the first turn

A batch of pages asks for its directory and then asks the host for its commands.  Neither changes
a file, and without the directory the host is not asked at all.
-/

namespace CommandDocs

open Files (Path)

variable {η α β : Type}

/-! ## Activities that only talk to the host -/

/-- An activity that does no more than talk to the host, which stays settled and prints no help. -/
def Act.OnlyTalks (settled : η → Prop) (act : Act η α) : Prop :=
  ∀ w, settled w.host → ∃ questions, ∃ talk : Host.Talk η, settled talk.state ∧
    (∀ question ∈ questions, question.printsHelp = false) ∧
    (act.run w).2 = w.talked questions talk

namespace Act.OnlyTalks

variable {settled : η → Prop}

theorem pure (value : α) : OnlyTalks settled (Pure.pure value : Act η α) :=
  fun w start => ⟨[], ⟨w.host, w.log⟩, start, by simp, by simp [Workspace.talked]⟩

theorem throw (failure : Failure) : OnlyTalks settled (MonadExcept.throw failure : Act η α) :=
  fun w start => ⟨[], ⟨w.host, w.log⟩, start, by simp, by simp [Workspace.talked]⟩

theorem ask {question : Host.Recorded} {call : Host.Call η α} (other : question.printsHelp = false)
    (kept : ∀ talk : Host.Talk η, settled talk.state → settled (call.run talk).2.state) :
    OnlyTalks settled (Act.ask question call) := by
  intro w start
  rw [Act.run_ask]
  exact ⟨[question], (call.run ⟨w.host, w.log⟩).2, kept _ start, by simpa using other, rfl⟩

theorem bind {act : Act η α} {next : α → Act η β} (first : OnlyTalks settled act)
    (second : ∀ value, OnlyTalks settled (next value)) : OnlyTalks settled (act >>= next) := by
  intro w start
  obtain ⟨questions, talk, holds, others, same⟩ := first w start
  rw [run_bind]
  cases ran : act.run w with
  | mk outcome after =>
      rw [ran] at same
      dsimp only at same
      subst same
      cases outcome with
      | error failure => exact ⟨questions, talk, holds, others, rfl⟩
      | ok value =>
          obtain ⟨more, last, ends, further, same⟩ := second value (w.talked questions talk) holds
          refine ⟨questions ++ more, last, ends, ?_, same.trans (w.talked_talked _ _ _ _)⟩
          exact fun question member =>
            (List.mem_append.mp member).elim (others question) (further question)

end Act.OnlyTalks

theorem onlyTalks_resolve {settled : η → Prop} {host : Host η} (keeps : host.Keeps settled)
    (batch : Batch) (name : String) : Act.OnlyTalks settled (resolve host batch name) := by
  unfold resolve
  refine .bind (.ask rfl (keeps.commandExists name)) fun command => ?_
  split
  · exact .pure _
  · refine .bind (.ask rfl (keeps.moduleExists name)) fun module => ?_
    split
    · exact .bind (.ask rfl (keeps.moduleCommands name)) fun _ => .pure _
    · exact .throw _

theorem Workspace.Onward.talked {settled : η → Prop} {w : Workspace η} (fresh : w.Fresh)
    (questions : List Host.Recorded) {talk : Host.Talk η} (holds : settled talk.state) :
    w.Onward settled (w.talked questions talk) where
  fresh := fresh.talked questions talk
  settled := holds
  here := rfl
  home := rfl
  temporary := w.temporary_talked questions talk
  directories := .refl _

/-- Finding the commands of a name is no more than talking to the host. -/
theorem onward_of_resolved {settled : η → Prop} {host : Host η} (keeps : host.Keeps settled)
    {batch : Batch} {name : String} {commands : List String} {w w₀ : Workspace η}
    (fresh : w.Fresh) (start : settled w.host)
    (resolved : (resolve host batch name).run w = (.ok commands, w₀)) :
    w.Onward settled w₀ ∧ ∃ questions, (∀ question ∈ questions, question.printsHelp = false) ∧
      w₀ = w.talked questions ⟨w₀.host, w₀.log⟩ := by
  obtain ⟨questions, talk, holds, others, same⟩ := onlyTalks_resolve keeps batch name w start
  rw [resolved] at same
  dsimp only at same
  rw [same]
  exact ⟨.talked fresh questions holds, questions, others, rfl⟩

/-! ## Running a batch of pages -/

def PageResult.of (command : String) (outcome : Except Failure Path) : PageResult where
  command
  outcome := match outcome with
    | .ok p => .ok p.text
    | .error failure => .error failure.message

def pageResults (outcomes : List (String × Except Failure Path)) : List PageResult :=
  outcomes.map fun (command, outcome) => PageResult.of command outcome

/-- The last line in the log of a batch of pages. -/
def renderedNote (results : List PageResult) (total : Nat) : Note :=
  ⟨.info, "Rendered " ++ toString (results.countP (·.written)) ++ "/" ++ toString total ++
    " command page(s)"⟩

section Running

variable {host : Host η} {batch : Batch} {frame : Frame} {dir : Path} {name : String}
  {w : Workspace η}

theorem run_renderPages_of_missing (missing : w.store.isDirectory w.here dir = .ok false) :
    (renderPages host batch frame dir name).run w = (.error (.outputMissing dir.text), w) := by
  have asked : (Act.isDirectory dir : Act η Bool).run w = (.ok false, w) := by
    rw [Act.run_isDirectory, missing]
    rfl
  exact run_bind_of_error (run_bind_of_ok asked)

theorem run_renderPages_of_fault {fault : Files.Fault}
    (failed : w.store.isDirectory w.here dir = .error fault) :
    (renderPages host batch frame dir name).run w = (.error (.file fault), w) := by
  have asked : (Act.isDirectory dir : Act η Bool).run w = (.error (.file fault), w) := by
    rw [Act.run_isDirectory, failed]
    rfl
  exact run_bind_of_error (run_bind_of_error asked)

theorem run_requireOutput_of_there (there : w.store.isDirectory w.here dir = .ok true) :
    (requireOutput dir : Act η Unit).run w = (.ok (), w) := by
  have asked : (Act.isDirectory dir : Act η Bool).run w = (.ok true, w) := by
    rw [Act.run_isDirectory, there]
    rfl
  exact run_bind_of_ok asked

theorem run_renderPages_of_resolved {commands : List String} {w₀ : Workspace η}
    (there : w.store.isDirectory w.here dir = .ok true)
    (resolved : (resolve host batch name).run w = (.ok commands, w₀)) :
    (renderPages host batch frame dir name).run w =
      match (batch.run (renderPage host batch.width frame dir) skipping commands.length 1
        commands).run w₀ with
      | (.ok outcomes, after) =>
          (.ok (pageResults outcomes),
            { after with
              log := after.log ++ [renderedNote (pageResults outcomes) commands.length] })
      | (.error failure, after) => (.error failure, after) := by
  unfold renderPages
  rw [run_bind_of_ok (run_requireOutput_of_there there), run_bind_of_ok resolved]
  cases turned : (batch.run (renderPage host batch.width frame dir) skipping commands.length 1
      commands).run w₀ with
  | mk outcome after =>
      cases outcome with
      | ok outcomes => exact run_bind_of_ok turned
      | error failure => exact run_bind_of_error turned

/-- A batch that comes to one command writes its page and gives the path of it. -/
theorem run_renderPages_of_single {command : String} {w₀ : Workspace η} {bytes : Files.Bytes}
    {store : Files.Store} (there : w.store.isDirectory w.here dir = .ok true)
    (resolved : (resolve host batch name).run w = (.ok [command], w₀)) (fresh : w₀.Fresh)
    (page : Temporary.page frame (w₀.made + 1)
      ((batch.announced 1 1 command w₀).helpCall host batch.width command).1 = .ok bytes)
    (written : w₀.store.write w₀.here (pagePath dir command) bytes = .ok store) :
    ∃ after, (renderPages host batch frame dir name).run w =
      (.ok [⟨command, .ok (pagePath dir command).text⟩], after) ∧ after.store = store := by
  have ran := run_renderPage_of_page (fresh.announced batch 1 1 command) page written
  have turn : batch.Turn (renderPage host batch.width frame dir) skipping 1 1 command w₀ _ _ :=
    .kept ran
  have taken := Batch.run_cons_of_turn turn []
  rw [run_renderPages_of_resolved there resolved, List.length_singleton, taken]
  exact ⟨_, rfl, rfl⟩

/-- A batch of pages that gives results had its directory and its commands. -/
theorem exists_of_run_renderPages_ok {results : List PageResult} {after : Workspace η}
    (ran : (renderPages host batch frame dir name).run w = (.ok results, after)) :
    w.store.isDirectory w.here dir = .ok true ∧
      ∃ commands w₀, (resolve host batch name).run w = (.ok commands, w₀) := by
  cases there : w.store.isDirectory w.here dir with
  | error fault =>
      rw [run_renderPages_of_fault there] at ran
      cases ran
  | ok answer =>
      cases answer with
      | false =>
          rw [run_renderPages_of_missing there] at ran
          cases ran
      | true =>
          unfold renderPages at ran
          rw [run_bind_of_ok (run_requireOutput_of_there there)] at ran
          obtain ⟨commands, w₀, resolved, later⟩ := exists_of_run_bind_ok ran
          exact ⟨rfl, commands, w₀, resolved⟩

theorem turns_of_run_renderPages_ok {commands : List String} {w₀ after : Workspace η}
    {results : List PageResult} (there : w.store.isDirectory w.here dir = .ok true)
    (resolved : (resolve host batch name).run w = (.ok commands, w₀)) (fresh : w₀.Fresh)
    (ran : (renderPages host batch frame dir name).run w = (.ok results, after)) :
    ∃ outcomes last,
      Batch.Turns (PageTurn host batch frame dir commands.length) 1 commands w₀ outcomes last ∧
        results = pageResults (commands.zip outcomes) ∧
        after = { last with log := last.log ++ [renderedNote results commands.length] } := by
  rw [run_renderPages_of_resolved there resolved] at ran
  cases turned : (batch.run (renderPage host batch.width frame dir) skipping commands.length 1
      commands).run w₀ with
  | mk outcome last =>
      rw [turned] at ran
      cases outcome with
      | error failure => cases ran
      | ok found =>
          cases ran
          obtain ⟨outcomes, rfl, turns⟩ := Batch.turns_of_run_eq_ok turned
          have step := turns.mono Workspace.Fresh fresh fun fresh turn =>
            ⟨(pageTurn_of_turn fresh turn).fresh fresh, pageTurn_of_turn fresh turn⟩
          exact ⟨outcomes, last, step.2, rfl, rfl⟩

end Running

end CommandDocs

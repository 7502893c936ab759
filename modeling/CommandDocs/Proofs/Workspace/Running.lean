import CommandDocs.Proofs.Outcomes
import CommandDocs.Workspace

/-!
# Running activities

An activity takes a workspace to an outcome and a workspace.  Each way of making one says here
what it does when it is run.
-/

namespace CommandDocs

variable {η α β : Type}

/-- Whether a call has help printed to a temporary file. -/
def Host.Recorded.printsHelp : Host.Recorded → Bool
  | writeHelp .. => true
  | _ => false

namespace Workspace

/-- A workspace after some calls to the host. -/
def talked (w : Workspace η) (questions : List Host.Recorded) (talk : Host.Talk η) : Workspace η :=
  { w with
    host := talk.state
    log := talk.log
    events := w.events ++ questions.map Event.asked }

def told (w : Workspace η) (question : Host.Recorded) (talk : Host.Talk η) : Workspace η :=
  w.talked [question] talk

/-- Which temporary files exist follows from what has happened since. -/
theorem temporary_of_events {w after : Workspace η} (more : List Event)
    (same : after.events = w.events ++ more) :
    after.temporary = more.foldl Event.filesAfter w.temporary := by
  rw [temporary, same, List.foldl_append, temporary]

theorem progress_of_events {w after : Workspace η} (more : List Event)
    (same : after.events = w.events ++ more) :
    after.progress = w.progress ++ more.filterMap Event.progress? := by
  rw [progress, same, List.filterMap_append, progress]

@[simp] theorem temporary_talked (w : Workspace η) (questions : List Host.Recorded)
    (talk : Host.Talk η) : (w.talked questions talk).temporary = w.temporary := by
  refine (temporary_of_events _ rfl).trans ?_
  generalize w.temporary = files
  induction questions with
  | nil => rfl
  | cons question rest ih => exact ih

@[simp] theorem progress_talked (w : Workspace η) (questions : List Host.Recorded)
    (talk : Host.Talk η) : (w.talked questions talk).progress = w.progress := by
  refine (progress_of_events _ rfl).trans ?_
  rw [List.filterMap_map]
  simp [Function.comp_def, Event.progress?]

theorem talked_talked (w : Workspace η) (questions more : List Host.Recorded)
    (talk last : Host.Talk η) :
    (w.talked questions talk).talked more last = w.talked (questions ++ more) last := by
  simp [talked]

end Workspace

namespace Act

@[simp] theorem run_pure (value : α) (w : Workspace η) :
    (pure value : Act η α).run w = (.ok value, w) :=
  rfl

@[simp] theorem run_throw (failure : Failure) (w : Workspace η) :
    (throw failure : Act η α).run w = (.error failure, w) :=
  rfl

@[simp] theorem run_get (w : Workspace η) : (get : Act η (Workspace η)).run w = (.ok w, w) :=
  rfl

@[simp] theorem run_modify (f : Workspace η → Workspace η) (w : Workspace η) :
    (modify f : Act η Unit).run w = (.ok (), f w) :=
  rfl

@[simp] theorem run_note (level : Level) (text : String) (w : Workspace η) :
    (note level text).run w = (.ok (), { w with log := w.log ++ [⟨level, text⟩] }) :=
  rfl

@[simp] theorem run_trace (event : Event) (w : Workspace η) :
    (trace event).run w = (.ok (), { w with events := w.events ++ [event] }) :=
  rfl

@[simp] theorem run_report (progress : Progress) (w : Workspace η) :
    (report progress).run w = (.ok (), { w with events := w.events ++ [.reported progress] }) :=
  rfl

@[simp] theorem run_ofExcept (result : Except Failure α) (w : Workspace η) :
    (ofExcept result).run w = (result, w) := by
  cases result <;> rfl

theorem run_require (condition : Bool) (failure : Failure) (w : Workspace η) :
    (require condition failure).run w = (if condition then .ok () else .error failure, w) := by
  cases condition <;> rfl

theorem run_inspect (question : Files.Store → Files.Location → Except Files.Fault α)
    (w : Workspace η) :
    (inspect question).run w = ((question w.store w.here).mapError .file, w) := by
  unfold inspect
  rw [run_bind, run_get]
  dsimp only
  cases question w.store w.here <;> rfl

theorem run_isDirectory (p : Files.Path) (w : Workspace η) :
    (isDirectory p).run w = ((w.store.isDirectory w.here p).mapError .file, w) :=
  run_inspect _ w

theorem run_read (p : Files.Path) (w : Workspace η) :
    (read p).run w = ((w.store.read w.here p).mapError .file, w) :=
  run_inspect _ w

theorem run_alter_of_ok {change : Files.Store → Files.Location → Except Files.Fault Files.Store}
    {w : Workspace η} {store : Files.Store} (changed : change w.store w.here = .ok store) :
    (alter change).run w = (.ok (), { w with store }) := by
  unfold alter
  rw [run_bind, run_inspect, changed]
  rfl

theorem run_alter_of_error
    {change : Files.Store → Files.Location → Except Files.Fault Files.Store} {w : Workspace η}
    {fault : Files.Fault} (refused : change w.store w.here = .error fault) :
    (alter change).run w = (.error (.file fault), w) := by
  unfold alter
  rw [run_bind, run_inspect, refused]
  rfl

theorem run_writeText_of_ok {p : Files.Path} {text : String} {w : Workspace η}
    {store : Files.Store} (written : w.store.write w.here p (Text.encodeText text) = .ok store) :
    (writeText p text).run w = (.ok (), { w with store }) := by
  have changed : (fun (s : Files.Store) here => s.write here p (Text.encodeText text))
      w.store w.here = .ok store := written
  exact run_alter_of_ok changed

theorem run_writeText_of_error {p : Files.Path} {text : String} {w : Workspace η}
    {fault : Files.Fault} (refused : w.store.write w.here p (Text.encodeText text) = .error fault) :
    (writeText p text).run w = (.error (.file fault), w) := by
  have changed : (fun (s : Files.Store) here => s.write here p (Text.encodeText text))
      w.store w.here = .error fault := refused
  exact run_alter_of_error changed

/-- Calling the host is traced, and changes nothing else but its state and the log. -/
theorem run_ask (question : Host.Recorded) (call : Host.Call η α) (w : Workspace η) :
    (ask question call).run w =
      ((call.run ⟨w.host, w.log⟩).1.mapError .host,
        w.told question (call.run ⟨w.host, w.log⟩).2) := by
  unfold ask
  rw [run_bind_of_ok (run_trace _ w), run_bind, run_get]
  dsimp only
  cases call.run ⟨w.host, w.log⟩ with
  | mk result talk => cases result <;> rfl

/-- What the host has answered to a question, and the talk that is left. -/
theorem exists_talk_of_run_ask_ok {question : Host.Recorded} {call : Host.Call η α} {answer : α}
    {w after : Workspace η} (asked : (ask question call).run w = (.ok answer, after)) :
    ∃ talk, call.run ⟨w.host, w.log⟩ = (.ok answer, talk) ∧ after = w.told question talk := by
  rw [run_ask] at asked
  cases answered : call.run ⟨w.host, w.log⟩ with
  | mk outcome talk =>
      rw [answered] at asked
      cases outcome with
      | error fault => cases asked
      | ok value =>
          cases asked
          exact ⟨talk, rfl, rfl⟩

/-- An attempt never fails. -/
@[simp] theorem run_attempt (body : Act η α) (w : Workspace η) :
    (attempt body).run w = (.ok (body.run w).1, (body.run w).2) :=
  rfl

/-- A cleanup that cannot fail leaves the outcome as it is. -/
theorem run_ensuring {body : Act η α} {cleanup : Act η Unit} {w after clean : Workspace η}
    {outcome : Except Failure α} (ran : body.run w = (outcome, after))
    (cleaned : cleanup.run after = (.ok (), clean)) :
    (ensuring body cleanup).run w = (outcome, clean) := by
  simp only [ensuring, ExceptT.run_mk, bind, StateT.bind, ran, cleaned]
  rfl

end Act

end CommandDocs

import CommandDocs.Batch
import CommandDocs.Proofs.Workspace.Fetching

/-!
# The course of a batch

Whatever is done with the commands of a module is done in steps of a few kinds.  What holds from
step to step, and for every step between the workspaces before and after it, holds between those
before and after the whole.
-/

namespace CommandDocs

open Files (Path)

variable {η α β : Type}

def Act.Within (R : Workspace η → Workspace η → Prop) (act : Act η α) : Prop :=
  ∀ w, R w (act.run w).2

/-- A relation that holds over all steps of a batch, but for the writing of its files. -/
structure IsCourse (host : Host η) (R : Workspace η → Workspace η → Prop) : Prop where
  refl : ∀ w, R w w
  trans : ∀ {u v w}, R u v → R v w → R u w
  noted : ∀ w note, R w { w with log := w.log ++ [note] }
  reported : ∀ w progress, R w { w with events := w.events ++ [.reported progress] }
  commandExists : ∀ w name,
    R w (w.told (.commandExists name) ((host.commandExists name).run ⟨w.host, w.log⟩).2)
  moduleExists : ∀ w name,
    R w (w.told (.moduleExists name) ((host.moduleExists name).run ⟨w.host, w.log⟩).2)
  moduleCommands : ∀ w name,
    R w (w.told (.moduleCommands name) ((host.moduleCommands name).run ⟨w.host, w.log⟩).2)
  fetched : ∀ w width command, R w (w.fetched host width command)

def HoldsOfWrites (R : Workspace η → Workspace η → Prop) : Prop :=
  ∀ w p bytes store, w.store.write w.here p bytes = .ok store → R w { w with store }

def HoldsOfWritesAt (R : Workspace η → Workspace η → Prop) (p : Path) : Prop :=
  ∀ w bytes store, w.store.write w.here p bytes = .ok store → R w { w with store }

theorem HoldsOfWrites.at {R : Workspace η → Workspace η → Prop} (writes : HoldsOfWrites R)
    (p : Path) : HoldsOfWritesAt R p :=
  fun w => writes w p

namespace Act.Within

variable {R : Workspace η → Workspace η → Prop}

theorem attempt {act : Act η α} (own : Within R act) : Within R (Act.attempt act) :=
  own

theorem bind (trans : ∀ {u v w}, R u v → R v w → R u w) {act : Act η α} {next : α → Act η β}
    (first : Within R act) (second : ∀ value, Within R (next value)) :
    Within R (act >>= next) := by
  intro w
  have begun := first w
  rw [run_bind]
  cases ran : act.run w with
  | mk outcome after =>
      rw [ran] at begun
      cases outcome with
      | ok value => exact trans begun (second value after)
      | error failure => exact begun

theorem ask {question : Host.Recorded} {call : Host.Call η α}
    (told : ∀ w, R w (w.told question (call.run ⟨w.host, w.log⟩).2)) :
    Within R (Act.ask question call) := by
  intro w
  rw [Act.run_ask]
  exact told w

end Act.Within

section Course

variable {host : Host η} {R : Workspace η → Workspace η → Prop} (course : IsCourse host R)
include course

namespace IsCourse

theorem pure (value : α) : Act.Within R (Pure.pure value : Act η α) :=
  course.refl

theorem throw (failure : Failure) : Act.Within R (MonadExcept.throw failure : Act η α) :=
  course.refl

theorem bind {act : Act η α} {next : α → Act η β} (first : Act.Within R act)
    (second : ∀ value, Act.Within R (next value)) : Act.Within R (act >>= next) :=
  .bind (R := R) course.trans first second

theorem note (level : Level) (text : String) : Act.Within R (Act.note level text : Act η Unit) :=
  fun w => course.noted w ⟨level, text⟩

theorem require (condition : Bool) (failure : Failure) :
    Act.Within R (Act.require condition failure : Act η Unit) := by
  intro w
  rw [Act.run_require]
  exact course.refl w

theorem inspect (question : Files.Store → Files.Location → Except Files.Fault α) :
    Act.Within R (Act.inspect question : Act η α) := by
  intro w
  rw [Act.run_inspect]
  exact course.refl w

/-! ## Fetching and resolving -/

theorem noteParameters (text : String) :
    Act.Within R (CommandDocs.noteParameters text : Act η Unit) := by
  unfold CommandDocs.noteParameters
  split
  · exact course.pure ()
  · exact course.note _ _

theorem fetchHelp (width : Int) (command : String) :
    Act.Within R (CommandDocs.fetchHelp host width command) := by
  intro w
  rw [snd_run_fetchHelp]
  exact course.fetched w width command

theorem fetchFields (width : Int) (command : String) :
    Act.Within R (CommandDocs.fetchFields host width command) := by
  unfold CommandDocs.fetchFields
  refine course.bind (course.fetchHelp width command) fun text => ?_
  refine course.bind (course.noteParameters text) fun _ => ?_
  split
  · exact course.pure _
  · exact course.throw _

theorem resolve (batch : Batch) (name : String) :
    Act.Within R (CommandDocs.resolve host batch name) := by
  unfold CommandDocs.resolve
  refine course.bind (Act.Within.ask fun w => course.commandExists w name) fun command => ?_
  split
  · exact course.pure _
  · refine course.bind (Act.Within.ask fun w => course.moduleExists w name) fun module => ?_
    split
    · refine course.bind (Act.Within.ask fun w => course.moduleCommands w name) fun commands => ?_
      exact course.pure _
    · exact course.throw _

theorem requireOutput (dir : Path) : Act.Within R (CommandDocs.requireOutput dir : Act η Unit) :=
  course.bind (course.inspect _) fun _ => course.require _ _

/-! ## Batches -/

theorem announce (batch : Batch) (index total : Nat) (command : String) :
    Act.Within R (batch.announce index total command : Act η Unit) := by
  unfold Batch.announce
  split
  · exact fun w => course.reported w ⟨index, total, command⟩
  · exact course.pure ()

/-- A batch holds to what its steps hold to. -/
theorem run (batch : Batch) {step : String → Act η α} {commands : List String}
    (own : ∀ command ∈ commands, Act.Within R (step command))
    (warning : String → Failure → String) (total index : Nat) :
    Act.Within R (batch.run step warning total index commands) := by
  induction commands generalizing index with
  | nil => exact course.pure []
  | cons command rest ih =>
      rw [Batch.run]
      refine course.bind (course.announce batch index total command) fun _ => ?_
      obtain ⟨first, others⟩ := List.forall_mem_cons.mp own
      refine course.bind first.attempt fun outcome => ?_
      have onward := course.bind (ih others (index + 1)) fun more =>
        course.pure ((command, outcome) :: more)
      cases outcome with
      | ok value => exact onward
      | error failure =>
          refine course.bind (course.require _ _) fun _ => ?_
          exact course.bind (course.note _ _) fun _ => onward

theorem collect (batch : Batch) (module : String) :
    Act.Within R (CommandDocs.collect host batch module) := by
  unfold CommandDocs.collect
  refine course.bind (Act.Within.ask fun w => course.moduleExists w module) fun there => ?_
  split
  · refine course.bind (Act.Within.ask fun w => course.moduleCommands w module) fun commands => ?_
    refine course.bind (course.run batch (fun command _ => ?_) _ _ _) fun outcomes => ?_
    · exact course.fetchHelp batch.width command
    · exact course.bind (course.note _ _) fun _ => course.pure _
  · exact course.throw _

/-! ## Writing -/

theorem writeText {p : Path} (writes : HoldsOfWritesAt R p) (text : String) :
    Act.Within R (Act.writeText p text : Act η Unit) := by
  intro w
  cases written : w.store.write w.here p (Text.encodeText text) with
  | ok store =>
      rw [Act.run_writeText_of_ok written]
      exact writes w _ store written
  | error fault =>
      rw [Act.run_writeText_of_error written]
      exact course.refl w

theorem renderPage {dir : Path} {command : String}
    (writes : HoldsOfWritesAt R (dir.child (command ++ ".html"))) (width : Int) (frame : Frame) :
    Act.Within R (CommandDocs.renderPage host width frame dir command) := by
  unfold CommandDocs.renderPage
  refine course.bind (course.fetchFields width command) fun fields => ?_
  refine course.bind (course.writeText writes _) fun _ => ?_
  exact course.bind (course.note _ _) fun _ => course.pure _

section Writing

variable (writes : HoldsOfWrites R)
include writes

theorem renderPages (batch : Batch) (frame : Frame) (dir : Path) (name : String) :
    Act.Within R (CommandDocs.renderPages host batch frame dir name) := by
  unfold CommandDocs.renderPages
  refine course.bind (course.requireOutput dir) fun _ => ?_
  refine course.bind (course.resolve batch name) fun commands => ?_
  refine course.bind (course.run batch (fun command _ => ?_) _ _ _) fun outcomes => ?_
  · exact course.renderPage (writes.at _) batch.width frame
  · exact course.bind (course.note _ _) fun _ => course.pure _

theorem writeSummary (batch : Batch) (dir : Path) (fileName module : String)
    (render : List Summary.Entry → String) :
    Act.Within R (CommandDocs.writeSummary host batch dir fileName module render) := by
  unfold CommandDocs.writeSummary
  refine course.bind (course.requireOutput dir) fun _ => ?_
  refine course.bind (course.collect batch module) fun entries => ?_
  refine course.bind (course.writeText (writes.at _) _) fun _ => ?_
  exact course.bind (course.note _ _) fun _ => course.pure _

end Writing

end IsCourse

end Course

end CommandDocs

import CommandDocs.HelpText
import CommandDocs.Proofs.Host.Answers
import CommandDocs.Proofs.Workspace.Running

/-!
# What fetching a help text comes to

Fetching the help of a command opens a temporary file, calls the host once, and closes the file.
The help text follows from the answer of the host, and all that is left in the workspace is the
state of the host, the log, the number of temporary files made, and the trace of what happened.
-/

namespace CommandDocs

open Files (Bytes)

variable {η : Type}

/-- Every temporary file is numbered by how many were made before. -/
def Workspace.Fresh (w : Workspace η) : Prop :=
  ∀ file ∈ w.temporary, file.1 ≤ w.made

/-- The one call to the host in which the help of a command is printed: its answer, and the talk
that it leaves. -/
def Workspace.helpCall (w : Workspace η) (host : Host η) (width : Int) (command : String) :
    Except Host.Fault Host.HelpFile × Host.Talk η :=
  (host.writeHelp command (Temporary.path (w.made + 1)) width).run ⟨w.host, w.log⟩

namespace Temporary

/-- What is read from a temporary file after the host has had it. -/
def content (number : Nat) : Host.HelpFile → Except Files.Fault Bytes
  | .untouched => .ok []
  | .written bytes => .ok bytes
  | .removed => .error ⟨.missing, path number⟩

def helpText (number : Nat) : Except Host.Fault Host.HelpFile → Except Failure String
  | .error fault => .error (.host fault)
  | .ok file => helpTextOf (path number) (content number file)

/-- What happens to a temporary file when the host has answered. -/
def effects (number : Nat) : Except Host.Fault Host.HelpFile → List Event
  | .ok .untouched => []
  | .ok (.written bytes) => [.wrote number bytes]
  | .ok .removed => [.removed number]
  | .error _ => []

/-- What happens while the help of a command is fetched. -/
def eventsOf (number : Nat) (command : String) (width : Int)
    (answer : Except Host.Fault Host.HelpFile) : List Event :=
  .opened number :: .asked (.writeHelp command (path number) width) ::
    (effects number answer ++ [.closed number])

theorem run_apply (number : Nat) (file : Host.HelpFile) (w : Workspace η) :
    (apply number file).run w =
      (.ok (), { w with events := w.events ++ effects number (.ok file) }) := by
  cases file with
  | untouched => simp [apply, effects]
  | written bytes => rfl
  | removed => rfl

theorem run_read (number : Nat) (w : Workspace η) :
    (read number : Act η String).run w =
      (helpTextOf (path number)
        (match w.temporary.lookup number with
        | some bytes => .ok bytes
        | none => .error ⟨.missing, path number⟩), w) := by
  unfold read
  rw [run_bind, Act.run_get]
  exact Act.run_ofExcept _ w

/-- What is read from a temporary file when the host has had it. -/
theorem run_apply_read (number : Nat) (file : Host.HelpFile) (w : Workspace η) :
    (apply number file >>= fun _ => read number : Act η String).run w =
      (helpTextOf (path number)
        (match ((effects number (.ok file)).foldl Event.filesAfter w.temporary).lookup number with
        | some bytes => .ok bytes
        | none => .error ⟨.missing, path number⟩),
        { w with events := w.events ++ effects number (.ok file) }) := by
  rw [run_bind_of_ok (run_apply number file w), run_read,
    Workspace.temporary_of_events (effects number (.ok file)) rfl]

section Files

variable {old : List (Nat × Bytes)} {number : Nat} (apart : ∀ file ∈ old, file.1 ≠ number)
include apart

theorem filter_ne_of_apart : (old.filter fun file => file.1 != number) = old :=
  List.filter_eq_self.mpr fun file member => bne_iff_ne.mpr (apart file member)

theorem map_of_apart (bytes : Bytes) :
    (old.map fun file => if file.1 = number then (number, bytes) else file) = old := by
  refine (List.map_congr_left fun file member => ?_).trans (List.map_id old)
  rw [if_neg (apart file member)]
  rfl

theorem lookup_append_of_apart (more : List (Nat × Bytes)) :
    (old ++ more).lookup number = more.lookup number := by
  have missed : old.lookup number = none :=
    List.lookup_eq_none_iff.mpr fun file member => by simpa using (apart file member).symm
  rw [List.lookup_append, missed, Option.none_or]

/-- What the host does to a new temporary file decides what is read from it. -/
theorem lookup_effects (file : Host.HelpFile) :
    (match ((effects number (.ok file)).foldl Event.filesAfter (old ++ [(number, [])])).lookup
        number with
      | some bytes => .ok bytes
      | none => .error ⟨.missing, path number⟩) = content number file := by
  cases file with
  | untouched => simp [effects, content, lookup_append_of_apart apart]
  | written bytes =>
      simp [effects, content, Event.filesAfter, map_of_apart apart, lookup_append_of_apart apart]
  | removed =>
      have missed : old.lookup number = none := by
        simpa using lookup_append_of_apart apart []
      simp [effects, content, Event.filesAfter, filter_ne_of_apart apart, missed]

/-- A file that is opened and closed is gone, and no other file is touched. -/
theorem foldl_eventsOf (command : String) (width : Int)
    (answer : Except Host.Fault Host.HelpFile) :
    (eventsOf number command width answer).foldl Event.filesAfter old = old := by
  rcases answer with fault | file
  · simp [eventsOf, effects, Event.filesAfter, filter_ne_of_apart apart]
  · cases file <;>
      simp [eventsOf, effects, Event.filesAfter, filter_ne_of_apart apart, map_of_apart apart]

end Files

theorem filterMap_progress?_eventsOf (number : Nat) (command : String) (width : Int)
    (answer : Except Host.Fault Host.HelpFile) :
    (eventsOf number command width answer).filterMap Event.progress? = [] := by
  rcases answer with fault | file
  · rfl
  · cases file <;> rfl

theorem toOption_helpText (number : Nat) (answer : Except Host.Fault Host.HelpFile) :
    (helpText number answer).toOption =
      (Host.helpBytes answer).bind fun bytes => (Text.decodeDocument bytes).toOption := by
  have decoded (bytes : Bytes) : (helpTextOf (path number) (.ok bytes)).toOption =
      (Text.decodeDocument bytes).toOption := by
    unfold helpTextOf
    dsimp only
    cases Text.decodeDocument bytes <;> rfl
  cases answer with
  | error fault => rfl
  | ok file =>
      cases file with
      | untouched => exact decoded []
      | written bytes => exact decoded bytes
      | removed => rfl

end Temporary

/-- The workspace when the help of a command has been fetched. -/
def Workspace.fetched (w : Workspace η) (host : Host η) (width : Int) (command : String) :
    Workspace η :=
  { w with
    made := w.made + 1
    host := (w.helpCall host width command).2.state
    log := (w.helpCall host width command).2.log ++
      [⟨.debug, "Removed help extract for " ++ command⟩]
    events := w.events ++
      Temporary.eventsOf (w.made + 1) command width (w.helpCall host width command).1 }

/-- A workspace in which the next temporary file has been opened. -/
def Workspace.opened (w : Workspace η) : Workspace η :=
  { w with made := w.made + 1, events := w.events ++ [.opened (w.made + 1)] }

/-- A fetch is one call to the host and a reading of what the temporary file holds then. -/
theorem run_fetchHelp_read (host : Host η) (width : Int) (command : String) (w : Workspace η) :
    (fetchHelp host width command).run w =
      (match (w.helpCall host width command).1 with
        | .error fault => .error (.host fault)
        | .ok file => helpTextOf (Temporary.path (w.made + 1))
            (match ((Temporary.effects (w.made + 1) (.ok file)).foldl Event.filesAfter
                w.opened.temporary).lookup (w.made + 1) with
              | some bytes => .ok bytes
              | none => .error ⟨.missing, Temporary.path (w.made + 1)⟩),
        w.fetched host width command) := by
  have made : (Temporary.make : Act η Nat).run w = (.ok (w.made + 1), w.opened) := rfl
  have called := Act.run_ask (.writeHelp command (Temporary.path (w.made + 1)) width)
    (host.writeHelp command (Temporary.path (w.made + 1)) width) w.opened
  unfold fetchHelp
  rw [run_bind_of_ok made]
  unfold Workspace.fetched
  cases answered : w.helpCall host width command with
  | mk answer talk =>
      rw [show (host.writeHelp command (Temporary.path (w.made + 1)) width).run
        ⟨w.opened.host, w.opened.log⟩ = (answer, talk) from answered] at called
      cases answer with
      | error fault =>
          refine (Act.run_ensuring (run_bind_of_error called) (by rfl)).trans ?_
          simp [Workspace.told, Workspace.talked, Workspace.opened, Temporary.eventsOf,
            Temporary.effects]
      | ok file =>
          have read := Temporary.run_apply_read (w.made + 1) file
            (w.opened.told (.writeHelp command (Temporary.path (w.made + 1)) width) talk)
          rw [Workspace.told, Workspace.temporary_talked] at read
          refine (Act.run_ensuring ((run_bind_of_ok called).trans read) (by rfl)).trans ?_
          simp [Workspace.talked, Workspace.opened, Temporary.eventsOf]

theorem snd_run_fetchHelp (host : Host η) (width : Int) (command : String) (w : Workspace η) :
    ((fetchHelp host width command).run w).2 = w.fetched host width command :=
  congrArg Prod.snd (run_fetchHelp_read host width command w)

theorem Workspace.Fresh.talked {w : Workspace η} (fresh : w.Fresh)
    (questions : List Host.Recorded) (talk : Host.Talk η) : (w.talked questions talk).Fresh :=
  fun file member => fresh file (w.temporary_talked questions talk ▸ member)

theorem Workspace.Fresh.apart {w : Workspace η} (fresh : w.Fresh) :
    ∀ file ∈ w.temporary, file.1 ≠ w.made + 1 := by
  intro file member same
  have small := fresh file member
  omega

theorem run_fetchHelp {w : Workspace η} (fresh : w.Fresh) (host : Host η) (width : Int)
    (command : String) :
    (fetchHelp host width command).run w =
      (Temporary.helpText (w.made + 1) (w.helpCall host width command).1,
        w.fetched host width command) := by
  have opened : w.opened.temporary = w.temporary ++ [(w.made + 1, [])] :=
    Workspace.temporary_of_events [.opened (w.made + 1)] rfl
  rw [run_fetchHelp_read, opened]
  cases (w.helpCall host width command).1 with
  | error fault => rfl
  | ok file =>
      dsimp only
      rw [Temporary.lookup_effects fresh.apart]
      rfl

@[simp] theorem Workspace.progress_fetched (w : Workspace η) (host : Host η) (width : Int)
    (command : String) : (w.fetched host width command).progress = w.progress := by
  refine (Workspace.progress_of_events _ rfl).trans ?_
  rw [Temporary.filterMap_progress?_eventsOf, List.append_nil]

theorem Workspace.Fresh.temporary_fetched {w : Workspace η} (fresh : w.Fresh) (host : Host η)
    (width : Int) (command : String) :
    (w.fetched host width command).temporary = w.temporary :=
  (Workspace.temporary_of_events _ rfl).trans (Temporary.foldl_eventsOf fresh.apart _ _ _)

theorem Workspace.Fresh.fetched {w : Workspace η} (fresh : w.Fresh) (host : Host η) (width : Int)
    (command : String) : (w.fetched host width command).Fresh := by
  intro file member
  rw [fresh.temporary_fetched] at member
  exact Nat.le_succ_of_le (fresh file member)

/-- What is logged about the parameters of a help text. -/
def parameterNotes (text : String) : List Note :=
  match Help.parametersSection? (Help.linesOf text) with
  | none => []
  | some lines =>
      [⟨.debug, "Extracted " ++ toString (Help.readParameters lines).length ++ " parameter(s)"⟩]

theorem run_noteParameters (text : String) (w : Workspace η) :
    (noteParameters text).run w = (.ok (), { w with log := w.log ++ parameterNotes text }) := by
  unfold noteParameters parameterNotes
  cases Help.parametersSection? (Help.linesOf text) with
  | none => simp
  | some lines => rfl

/-- What is read from the help text that a temporary file holds. -/
def Temporary.fields (number : Nat) (answer : Except Host.Fault Host.HelpFile) :
    Except Failure Help.Fields :=
  helpText number answer >>= fun text => (Help.extract text).mapError .number

/-- What is logged about the help text that a temporary file holds. -/
def Temporary.notes (number : Nat) (answer : Except Host.Fault Host.HelpFile) : List Note :=
  match helpText number answer with
  | .ok text => parameterNotes text
  | .error _ => []

/-- Reading the help of a command is fetching it and logging the number of its parameters. -/
theorem run_fetchFields {w : Workspace η} (fresh : w.Fresh) (host : Host η) (width : Int)
    (command : String) :
    (fetchFields host width command).run w =
      (Temporary.fields (w.made + 1) (w.helpCall host width command).1,
        { w.fetched host width command with
          log := (w.fetched host width command).log ++
            Temporary.notes (w.made + 1) (w.helpCall host width command).1 }) := by
  have fetched := run_fetchHelp fresh host width command
  unfold fetchFields
  cases said : Temporary.helpText (w.made + 1) (w.helpCall host width command).1 with
  | error failure =>
      rw [said] at fetched
      rw [run_bind_of_error fetched]
      simp [Temporary.fields, Temporary.notes, said, bind, Except.bind]
  | ok text =>
      rw [said] at fetched
      rw [run_bind_of_ok fetched, run_bind_of_ok (run_noteParameters text _)]
      simp only [Temporary.fields, Temporary.notes, said, bind, Except.bind]
      cases Help.extract text <;> rfl

end CommandDocs

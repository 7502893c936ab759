import CommandDocs.Proofs.Batch.Oversized
import Mathlib.Data.List.Forall2

/-!
# A batch is the sequence of its single pages

When the answers of a host depend on command and width alone, the pages of a batch do not know of
each other.  Every outcome is that of rendering the page alone in the workspace from which the
batch started, and the files are those that were there, with each page put in its place.
-/

namespace CommandDocs

open Files (Path Bytes Location)

variable {η : Type}

/-! ## One page alone -/

section Alone

variable (host : Host η) (answer : String → Int → Except Host.Fault Host.HelpFile) (batch : Batch)
  (frame : Frame) (dir : Path) (w : Workspace η)

/-- What comes of rendering the page of one command alone, when the numbers of some temporary
files have been given out. -/
def renderAlone (earlier : Nat) (command : String) : Except Failure Path :=
  ((renderPage host batch.width frame dir command).run { w with made := w.made + earlier }).1

/-- Where the page of a command stands. -/
def pagePlace (command : String) : Location :=
  match w.store.locate w.here (pagePath dir command) with
  | .ok location => location
  | .error _ => []

def putPage (store : Files.Store) (command : String) : Files.Store :=
  match frame.ownPage (answer command batch.width) with
  | some page => store.put (pagePlace dir w command) (.file page)
  | none => store

/-- What can become of the page of a command: it is written where its path leads, or there is none
because of a failure of the command's own. -/
inductive IsOutcome (command : String) : Except Failure Path → Prop
  | page {bytes : Bytes} (own : frame.ownPage (answer command batch.width) = some bytes)
      (place : w.store.locate w.here (pagePath dir command) = .ok (pagePlace dir w command))
      (free : w.store.at? (pagePlace dir w command) ≠ some .directory) :
      IsOutcome command (.ok (pagePath dir command))
  | failure {failure : Failure} (pageless : frame.ownPage (answer command batch.width) = none)
      (own : failure.isPerCommand = true) : IsOutcome command (.error failure)

end Alone

def warningsIn (log : List Note) : List String :=
  log.filterMap fun note => if note.level = .warning then some note.text else none

theorem warningsIn_append (first second : List Note) :
    warningsIn (first ++ second) = warningsIn first ++ warningsIn second :=
  List.filterMap_append

theorem warningsIn_notes (number : Nat) (answer : Except Host.Fault Host.HelpFile) :
    warningsIn (Temporary.notes number answer) = [] := by
  unfold Temporary.notes
  cases Temporary.helpText number answer with
  | error failure => rfl
  | ok text =>
      dsimp only
      unfold parameterNotes
      cases Help.parametersSection? (Help.linesOf text) <;> rfl

def PageResult.warning? (result : PageResult) : Option String :=
  match result.outcome with
  | .ok _ => none
  | .error text => some ("Skipping " ++ result.command ++ ": " ++ text)

/-- A host that logs no warnings of its own when it prints help. -/
def Host.IsQuiet (host : Host η) : Prop :=
  ∀ command path width (talk : Host.Talk η),
    warningsIn ((host.writeHelp command path width).run talk).2.log = warningsIn talk.log

section Turn

variable {settled : η → Prop} {host : Host η}
  {answer : String → Int → Except Host.Fault Host.HelpFile} {batch : Batch} {frame : Frame}
  {dir : Path} {w v after : Workspace η} {total index earlier : Nat} {command : String}
  {outcome : Except Failure Path}

theorem Host.Answers.reply_announced (answers : host.Answers settled answer)
    (start : settled v.host) (total index : Nat) :
    ((batch.announced total index command v).helpCall host batch.width command).1 =
      answer command batch.width :=
  answers.reply _ _ _ _ start

theorem PageTurn.outcome_eq (answers : host.Answers settled answer) (fresh : w.Fresh)
    (start : settled w.host) (onward : w.Onward settled v) (made : v.made = w.made + earlier)
    (turn : PageTurn host batch frame dir total index command v outcome after) :
    outcome = renderAlone host batch frame dir w earlier command := by
  have later : ({ w with made := w.made + earlier } : Workspace η).Fresh :=
    fun file member => Nat.le_add_right_of_le (fresh file member)
  have reply : (({ w with made := w.made + earlier } : Workspace η).helpCall host batch.width
      command).1 = answer command batch.width := answers.reply _ _ _ _ start
  cases turn with
  | written reported page stored =>
      subst reported
      rw [answers.reply_announced onward.settled, made] at page
      rw [onward.here] at stored
      obtain ⟨location, led, free, written⟩ :=
        Files.Store.write_of_sameDirectories onward.directories.symm stored
      rw [← reply] at page
      rw [renderAlone, run_renderPage_of_page later page written]
  | skipped reported pageless goes =>
      subst reported
      rw [answers.reply_announced onward.settled, made, ← reply] at pageless
      rw [renderAlone, run_renderPage_of_failure later pageless]

theorem pagePlace_of_stored (onward : w.Onward settled v) {bytes : Bytes} {store : Files.Store}
    (stored : v.store.write v.here (pagePath dir command) bytes = .ok store) :
    w.store.locate w.here (pagePath dir command) = .ok (pagePlace dir w command) ∧
      w.store.at? (pagePlace dir w command) ≠ some .directory ∧
      store = v.store.put (pagePlace dir w command) (.file bytes) := by
  rw [onward.here] at stored
  obtain ⟨location, led, free, rfl⟩ := Files.Store.write_eq_ok_iff.mp stored
  have place := Files.Store.locate_eq_ok_of_sameDirectories onward.directories.symm led
  have same : pagePlace dir w command = location := by
    unfold pagePlace
    rw [place]
  rw [same]
  exact ⟨place, fun standing => free ((onward.directories location).mp standing), rfl⟩

theorem PageTurn.isOutcome (answers : host.Answers settled answer) (onward : w.Onward settled v)
    (turn : PageTurn host batch frame dir total index command v outcome after) :
    IsOutcome answer batch frame dir w command outcome := by
  cases turn with
  | written reported page stored =>
      subst reported
      rw [answers.reply_announced onward.settled] at page
      obtain ⟨place, free, same⟩ := pagePlace_of_stored onward stored
      exact .page (Temporary.page_eq_ok_iff.mp page) place free
  | skipped reported pageless goes =>
      subst reported
      rw [answers.reply_announced onward.settled] at pageless
      exact .failure (Temporary.ownPage_eq_none pageless) (Bool.and_eq_true_iff.mp goes).1

theorem PageTurn.store_eq (answers : host.Answers settled answer) (onward : w.Onward settled v)
    (turn : PageTurn host batch frame dir total index command v outcome after) :
    after.store = putPage answer batch frame dir w v.store command := by
  cases turn with
  | written reported page stored =>
      subst reported
      rw [answers.reply_announced onward.settled, Temporary.page_eq_ok_iff] at page
      obtain ⟨place, free, rfl⟩ := pagePlace_of_stored onward stored
      simp only [putPage, page]
  | skipped reported pageless goes =>
      subst reported
      rw [answers.reply_announced onward.settled] at pageless
      simp only [putPage, Temporary.ownPage_eq_none pageless]
      rfl

/-- A turn makes one report. -/
theorem PageTurn.progress_eq
    (turn : PageTurn host batch frame dir total index command v outcome after) :
    after.progress = v.progress ++ batch.due total index command := by
  have said := (Workspace.progress_fetched (batch.announced total index command v) host batch.width
    command).trans (batch.progress_announced total index command v)
  cases turn with
  | written reported page stored =>
      subst reported
      exact said
  | skipped reported pageless goes =>
      subst reported
      exact said

/-- A turn makes its report, and then one call to the host while a temporary file is open. -/
theorem PageTurn.events_eq (answers : host.Answers settled answer) (start : settled v.host)
    (turn : PageTurn host batch frame dir total index command v outcome after) :
    after.events = v.events ++ ((batch.due total index command).map Event.reported ++
      Temporary.eventsOf (v.made + 1) command batch.width (answer command batch.width)) := by
  rw [← answers.reply_announced start total index, ← List.append_assoc]
  cases turn with
  | written reported page stored => rw [reported]; rfl
  | skipped reported pageless goes => rw [reported]; rfl

theorem PageTurn.warnings_eq (quiet : host.IsQuiet)
    (turn : PageTurn host batch frame dir total index command v outcome after) :
    warningsIn after.log =
      warningsIn v.log ++ ((PageResult.of command outcome).warning?).toList := by
  have said (announced : Workspace η) :
      warningsIn (announced.consulted host batch.width command).log = warningsIn announced.log := by
    rw [Workspace.consulted, Workspace.fetched]
    dsimp only
    rw [warningsIn_append, warningsIn_append, warningsIn_notes, Workspace.helpCall, quiet]
    simp [warningsIn]
  cases turn with
  | written reported page stored =>
      subst reported
      dsimp only
      rw [warningsIn_append, said]
      rfl
  | skipped reported pageless goes =>
      subst reported
      dsimp only
      rw [warningsIn_append, said]
      rfl

end Turn

/-! ## A batch of pages -/

section Turns

variable {settled : η → Prop} {host : Host η}
  {answer : String → Int → Except Host.Fault Host.HelpFile} {batch : Batch} {frame : Frame}
  {dir : Path} {w v after : Workspace η} {total index earlier : Nat} {commands : List String}
  {outcomes : List (Except Failure Path)}

def Batch.reportsFrom (batch : Batch) (total index : Nat) (commands : List String) :
    List Progress :=
  if batch.reports then commands.mapIdx fun k command => ⟨index + k, total, command⟩ else []

theorem Batch.reportsFrom_cons (batch : Batch) (total index : Nat) (command : String)
    (commands : List String) :
    batch.reportsFrom total index (command :: commands) =
      batch.due total index command ++ batch.reportsFrom total (index + 1) commands := by
  unfold reportsFrom due
  cases batch.reports with
  | false => rfl
  | true =>
      simp only [if_true, List.mapIdx_cons, Nat.add_zero, List.singleton_append, Nat.add_assoc,
        Nat.add_comm 1]

/-- What happens in a batch in which the help of every command is fetched: for each of them its
report, and then the call to the host, between the opening and the closing of the next temporary
file. -/
def Batch.eventsFrom (batch : Batch) (answer : String → Int → Except Host.Fault Host.HelpFile)
    (total : Nat) : (index made : Nat) → List String → List Event
  | _, _, [] => []
  | index, made, command :: commands =>
      (batch.due total index command).map Event.reported ++
        Temporary.eventsOf (made + 1) command batch.width (answer command batch.width) ++
        eventsFrom batch answer total (index + 1) (made + 1) commands

theorem at?_putPage (store : Files.Store) {command : String} {location : Location}
    (elsewhere : (frame.ownPage (answer command batch.width)).isSome →
      pagePlace dir w command ≠ location) :
    (putPage answer batch frame dir w store command).at? location = store.at? location := by
  unfold putPage
  cases own : frame.ownPage (answer command batch.width) with
  | none => rfl
  | some page => exact Files.Store.at?_put_of_ne store (elsewhere (by rw [own]; rfl)).symm _

theorem at?_foldl_putPage {location : Location}
    (elsewhere : ∀ command ∈ commands, (frame.ownPage (answer command batch.width)).isSome →
      pagePlace dir w command ≠ location) (store : Files.Store) :
    (commands.foldl (putPage answer batch frame dir w) store).at? location =
      store.at? location := by
  induction commands generalizing store with
  | nil => rfl
  | cons command commands ih =>
      rw [List.foldl_cons, ih fun other member => elsewhere other (List.mem_cons_of_mem _ member),
        at?_putPage store (elsewhere command List.mem_cons_self)]

/-- What a batch of pages has come to, seen from the workspace in which it started: outcomes,
reports, files and warnings are those of its commands one by one. -/
structure IsSequence (host : Host η) (answer : String → Int → Except Host.Fault Host.HelpFile)
    (batch : Batch) (frame : Frame) (dir : Path) (w : Workspace η) (total index earlier : Nat)
    (commands : List String) (v : Workspace η) (outcomes : List (Except Failure Path))
    (after : Workspace η) : Prop where
  alone : outcomes = commands.mapIdx fun k command =>
    renderAlone host batch frame dir w (earlier + k) command
  kinds : List.Forall₂ (IsOutcome answer batch frame dir w) commands outcomes
  progress : after.progress = v.progress ++ batch.reportsFrom total index commands
  events : after.events = v.events ++ batch.eventsFrom answer total index v.made commands
  store : after.store = commands.foldl (putPage answer batch frame dir w) v.store
  made : after.made = v.made + commands.length
  warnings : host.IsQuiet → warningsIn after.log =
    warningsIn v.log ++ (pageResults (commands.zip outcomes)).filterMap PageResult.warning?

theorem isSequence_of_turns (answers : host.Answers settled answer) (fresh : w.Fresh)
    (start : settled w.host) (onward : w.Onward settled v) (made : v.made = w.made + earlier)
    (turns : Batch.Turns (PageTurn host batch frame dir total) index commands v outcomes after) :
    w.Onward settled after ∧
      IsSequence host answer batch frame dir w total index earlier commands v outcomes after := by
  induction turns generalizing earlier with
  | done =>
      refine ⟨onward, rfl, .nil, ?_, (List.append_nil _).symm, rfl, rfl, fun quiet => ?_⟩
      · unfold Batch.reportsFrom
        split <;> simp
      · simp [pageResults]
  | @next index command commands before middle after outcome outcomes first rest ih =>
      have later : middle.made = w.made + (earlier + 1) := by rw [first.made_eq, made]; rfl
      obtain ⟨ends, sequence⟩ := ih (first.onward answers.keeps onward) later
      refine ⟨ends, ?_, .cons (first.isOutcome answers onward) sequence.kinds, ?_, ?_, ?_, ?_,
        fun quiet => ?_⟩
      · have shift : ∀ k, earlier + 1 + k = earlier + (k + 1) := by omega
        rw [List.mapIdx_cons, Nat.add_zero, ← first.outcome_eq answers fresh start onward made]
        refine congrArg (outcome :: ·) (sequence.alone.trans ?_)
        simp only [shift]
      · rw [sequence.progress, first.progress_eq, Batch.reportsFrom_cons, List.append_assoc]
      · rw [sequence.events, first.events_eq answers onward.settled, first.made_eq,
          List.append_assoc]
        rfl
      · rw [sequence.store, first.store_eq answers onward, List.foldl_cons]
      · rw [sequence.made, first.made_eq, List.length_cons, Nat.add_assoc, Nat.add_comm 1]
      · rw [sequence.warnings quiet, first.warnings_eq quiet, List.append_assoc]
        simp only [pageResults, List.zip_cons_cons, List.map_cons, List.filterMap_cons]
        cases (PageResult.of command outcome).warning? <;> rfl

end Turns

end CommandDocs

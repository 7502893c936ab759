import CommandDocs.Host.Catalogue
import CommandDocs.Proofs.Workspace.Course

/-!
# Temporary files never outlive their use

All that is done with commands leaves a trace of reports, calls and fetches.  A fetch opens a
temporary file, has help printed to it, and closes it before anything else happens.  So there are
never two temporary files, and while none is in use there is none at all.
-/

namespace CommandDocs

open Files (Path Bytes)

variable {η : Type}

namespace Event

/-! ## Traces -/

/-- What happens between two numbers of temporary files made: reports, calls that print no help,
and whole fetches, each with the next number. -/
inductive Fetches : Nat → List Event → Nat → Prop
  | done {made : Nat} : Fetches made [] made
  | reported {made last : Nat} {events : List Event} (progress : Progress)
      (rest : Fetches made events last) : Fetches made (.reported progress :: events) last
  | asked {made last : Nat} {events : List Event} {call : Host.Recorded}
      (other : call.printsHelp = false) (rest : Fetches made events last) :
      Fetches made (.asked call :: events) last
  | fetched {made last : Nat} {events : List Event} (command : String) (width : Int)
      (answer : Except Host.Fault Host.HelpFile) (rest : Fetches (made + 1) events last) :
      Fetches made (Temporary.eventsOf (made + 1) command width answer ++ events) last

theorem Fetches.append {made middle last : Nat} {events more : List Event}
    (first : Fetches made events middle) (second : Fetches middle more last) :
    Fetches made (events ++ more) last := by
  induction first with
  | done => exact second
  | reported progress _ ih => exact .reported progress (ih second)
  | asked other _ ih => exact .asked other (ih second)
  | fetched command width answer _ ih =>
      rw [List.append_assoc]
      exact .fetched command width answer (ih second)

/-- The temporary file that is in use after an event. -/
def inUseAfter (inUse : Option Nat) : Event → Option Nat
  | opened number => some number
  | closed _ => none
  | reported _ | asked _ | wrote _ _ | removed _ => inUse

/-- What may happen while a temporary file is in use, and while there is none in use. -/
def Allowed : Option Nat → Event → Prop
  | none, reported _ | none, opened _ => True
  | none, asked call => call.printsHelp = false
  | some _, asked call => call.printsHelp = true
  | some number, wrote other _ | some number, removed other | some number, closed other =>
      other = number
  | _, _ => False

/-- Every event is allowed where it happens. -/
def Orderly : Option Nat → List Event → Prop
  | _, [] => True
  | inUse, event :: rest => event.Allowed inUse ∧ Orderly (event.inUseAfter inUse) rest

/-- A fetch begins and ends without a file in use. -/
theorem orderly_eventsOf_append (number : Nat) (command : String) (width : Int)
    (answer : Except Host.Fault Host.HelpFile) {events : List Event}
    (rest : Orderly none events) :
    Orderly none (Temporary.eventsOf number command width answer ++ events) := by
  rcases answer with fault | file
  · exact ⟨trivial, rfl, rfl, rest⟩
  · cases file with
    | untouched => exact ⟨trivial, rfl, rfl, rest⟩
    | written bytes => exact ⟨trivial, rfl, rfl, rfl, rest⟩
    | removed => exact ⟨trivial, rfl, rfl, rfl, rest⟩

theorem Fetches.orderly {made last : Nat} {events : List Event}
    (fetches : Fetches made events last) : Orderly none events := by
  induction fetches with
  | done => trivial
  | reported _ _ ih => exact ⟨trivial, ih⟩
  | asked other _ ih => exact ⟨other, ih⟩
  | fetched command width answer _ ih => exact orderly_eventsOf_append _ command width answer ih

/-! ## Temporary files along a trace -/

/-- At most the temporary file in use exists. -/
structure Tidy (inUse : Option Nat) (files : List (Nat × Bytes)) : Prop where
  alone : files.length ≤ 1
  own : ∀ file ∈ files, inUse = some file.1

theorem tidy_none_iff {files : List (Nat × Bytes)} : Tidy none files ↔ files = [] := by
  constructor
  · intro tidy
    refine List.eq_nil_iff_forall_not_mem.mpr fun file member => ?_
    cases tidy.own file member
  · rintro rfl
    exact ⟨by simp, by simp⟩

/-- An event that is allowed leaves at most the file in use. -/
theorem Tidy.after {inUse : Option Nat} {files : List (Nat × Bytes)} {event : Event}
    (tidy : Tidy inUse files) (allowed : event.Allowed inUse) :
    Tidy (event.inUseAfter inUse) (event.filesAfter files) := by
  obtain ⟨alone, own⟩ := tidy
  have without (number : Nat) : Tidy inUse (files.filter fun file => file.1 != number) :=
    ⟨Nat.le_trans (List.length_filter_le _ _) alone,
      fun file member => own file (List.mem_filter.mp member).1⟩
  cases event with
  | reported => exact ⟨alone, own⟩
  | asked => exact ⟨alone, own⟩
  | opened number =>
      cases inUse with
      | some other => cases allowed
      | none =>
          obtain rfl := tidy_none_iff.mp ⟨alone, own⟩
          exact ⟨Nat.le_refl 1, by simp [inUseAfter, filesAfter]⟩
  | wrote number bytes =>
      cases inUse with
      | none => cases allowed
      | some other =>
          obtain rfl : number = other := allowed
          refine ⟨by simpa [filesAfter] using alone, fun file member => ?_⟩
          obtain ⟨old, held, rfl⟩ := List.mem_map.mp member
          have same := Option.some.inj (own old held)
          simp [inUseAfter, same]
  | removed number => exact without number
  | closed number =>
      cases inUse with
      | none => cases allowed
      | some other =>
          obtain rfl : number = other := allowed
          refine tidy_none_iff.mpr (List.filter_eq_nil_iff.mpr fun file member => ?_)
          simp [Option.some.inj (own file member)]

/-- However far a trace goes, at most the file in use exists. -/
theorem Tidy.along {inUse : Option Nat} {files : List (Nat × Bytes)} (tidy : Tidy inUse files)
    {events : List Event} (orderly : Orderly inUse events) {earlier : List Event}
    (begins : earlier <+: events) :
    Tidy (earlier.foldl inUseAfter inUse) (earlier.foldl filesAfter files) := by
  induction earlier generalizing inUse files events with
  | nil => exact tidy
  | cons event earlier ih =>
      obtain ⟨later, rfl⟩ := begins
      exact ih (tidy.after orderly.1) orderly.2 ⟨later, rfl⟩

theorem Fetches.inUse_eq {made last : Nat} {events : List Event}
    (fetches : Fetches made events last) : events.foldl inUseAfter none = none := by
  induction fetches with
  | done => rfl
  | reported _ _ ih => exact ih
  | asked _ _ ih => exact ih
  | fetched command width answer _ ih =>
      rw [List.foldl_append]
      rcases answer with fault | file
      · exact ih
      · cases file <;> exact ih

end Event

/-! ## What the work leaves in the trace -/

/-- One workspace comes of another by reports, calls and whole fetches. -/
def Workspace.Fetches (w after : Workspace η) : Prop :=
  ∃ events, after.events = w.events ++ events ∧ Event.Fetches w.made events after.made

theorem Workspace.Fetches.refl (w : Workspace η) : w.Fetches w :=
  ⟨[], (List.append_nil _).symm, .done⟩

theorem Workspace.Fetches.trans {u v w : Workspace η} (first : u.Fetches v) (second : v.Fetches w) :
    u.Fetches w := by
  obtain ⟨events, began, fetches⟩ := first
  obtain ⟨more, ended, others⟩ := second
  exact ⟨events ++ more, by rw [ended, began, List.append_assoc], fetches.append others⟩

theorem Workspace.Fetches.isCourse (host : Host η) : IsCourse host Workspace.Fetches where
  refl := refl
  trans := trans
  noted w _ := refl w
  reported _ progress := ⟨_, rfl, .reported progress .done⟩
  commandExists _ _ := ⟨_, rfl, .asked rfl .done⟩
  moduleExists _ _ := ⟨_, rfl, .asked rfl .done⟩
  moduleCommands _ _ := ⟨_, rfl, .asked rfl .done⟩
  fetched _ width command :=
    ⟨_, rfl, List.append_nil (Temporary.eventsOf ..) ▸ .fetched command width _ .done⟩

/-! ## Tasks -/

/-- Something to be done with commands: reading the help of one, writing its page or all pages
of a name, and collecting or writing the summary of a module. -/
inductive Task where
  | fields (width : Int) (command : String)
  | page (width : Int) (frame : Frame) (dir : Path) (command : String)
  | pages (batch : Batch) (frame : Frame) (dir : Path) (name : String)
  | entries (batch : Batch) (module : String)
  | html (batch : Batch) (dir : Path) (fileName : Option String) (module : String)
      (flagged : List String)
  | markdown (batch : Batch) (dir : Path) (fileName : Option String) (module address : String)
      (flagged : List String)

/-- The workspace that a task leaves, whether or not it fails. -/
def Task.perform (host : Host η) (w : Workspace η) : Task → Workspace η
  | fields width command => ((fetchFields host width command).run w).2
  | page width frame dir command => ((renderPage host width frame dir command).run w).2
  | pages batch frame dir name => ((renderPages host batch frame dir name).run w).2
  | entries batch module => ((collect host batch module).run w).2
  | html batch dir fileName module flagged =>
      ((writeHtml host batch dir fileName module flagged).run w).2
  | markdown batch dir fileName module address flagged =>
      ((writeMarkdown host batch dir fileName module address flagged).run w).2

theorem Task.fetches_perform (host : Host η) (w : Workspace η) (task : Task) :
    w.Fetches (task.perform host w) := by
  have course := Workspace.Fetches.isCourse host
  have writes : HoldsOfWrites fun w after : Workspace η => w.Fetches after :=
    fun w _ _ _ _ => .refl w
  cases task with
  | fields width command => exact course.fetchFields width command w
  | page width frame dir command => exact course.renderPage (writes.at _) width frame w
  | pages batch frame dir name => exact course.renderPages writes batch frame dir name w
  | entries batch module => exact course.collect batch module w
  | html batch dir fileName module flagged =>
      exact course.writeSummary writes batch dir _ module _ w
  | markdown batch dir fileName module address flagged =>
      exact course.writeSummary writes batch dir _ module _ w

/-- The workspace that some tasks leave, one after the other. -/
def performAll (host : Host η) (w : Workspace η) (tasks : List Task) : Workspace η :=
  tasks.foldl (Task.perform host) w

theorem fetches_performAll (host : Host η) (w : Workspace η) (tasks : List Task) :
    w.Fetches (performAll host w tasks) := by
  induction tasks generalizing w with
  | nil => exact .refl w
  | cons task rest ih => exact (task.fetches_perform host w).trans (ih (task.perform host w))

/-- **Temporary files never outlive their use.**  Whatever is done with commands, and whatever the
host does, no temporary file is left by any task.  What happens on the way is a trace of reports,
calls and whole fetches; at no point of it do two temporary files exist, and while none is in use
there is none. -/
theorem temporary_performAll {w : Workspace η} (clean : w.temporary = []) (host : Host η)
    (tasks : List Task) :
    (performAll host w tasks).temporary = [] ∧
      ∃ events, (performAll host w tasks).events = w.events ++ events ∧
        Event.Fetches w.made events (performAll host w tasks).made ∧
        ∀ earlier, earlier <+: events →
          (earlier.foldl Event.filesAfter w.temporary).length ≤ 1 ∧
          (earlier.foldl Event.inUseAfter none = none →
            earlier.foldl Event.filesAfter w.temporary = []) := by
  obtain ⟨events, happened, fetches⟩ := fetches_performAll host w tasks
  have tidy {earlier : List Event} (begins : earlier <+: events) :=
    (Event.tidy_none_iff.mpr clean).along fetches.orderly begins
  refine ⟨?_, events, happened, fetches, fun earlier begins => ⟨(tidy begins).alone, ?_⟩⟩
  · have ended := tidy (List.prefix_refl events)
    rw [fetches.inUse_eq] at ended
    exact (Workspace.temporary_of_events events happened).trans (Event.tidy_none_iff.mp ended)
  · intro idle
    have here := tidy begins
    rw [idle] at here
    exact Event.tidy_none_iff.mp here

/-- A workspace whose host prints the help of one command, but no text for another; it removes
the file of a third and breaks down on a fourth. -/
def fourCommands : Workspace Host.Catalogue where
  host := {
    modules := [("M", ["Get-A", "Get-B", "Get-C", "Get-D", "Get-A"])]
    help := [("Get-A", .text [0x61]), ("Get-B", .text [0x80]), ("Get-C", .removesFile),
      ("Get-D", .crashes "broken")] }

theorem temporary_performAll_fourCommands :
    fourCommands.temporary = [] ∧
      (performAll Host.catalogue fourCommands [.fields 80 "Get-C", .fields 80 "Get-A"]).events =
        [.opened 1, .asked (.writeHelp "Get-C" (Temporary.path 1) 80), .removed 1, .closed 1,
          .opened 2, .asked (.writeHelp "Get-A" (Temporary.path 2) 80), .wrote 2 [0x61],
          .closed 2] ∧
      (performAll Host.catalogue fourCommands
        [.entries {} "M", .fields 80 "Get-A", .fields 80 "Get-B"]).made = 6 ∧
      (performAll Host.catalogue fourCommands
        [.entries {} "M", .fields 80 "Get-A", .fields 80 "Get-B"]).temporary = [] :=
  ⟨rfl, by decide +kernel, by decide +kernel, (temporary_performAll rfl Host.catalogue _).1⟩

end CommandDocs

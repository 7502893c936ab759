import CommandDocs.Proofs.Batch.Turns
import CommandDocs.Proofs.Files.Writing
import CommandDocs.Proofs.Workspace.Fetching

/-!
# Batches of pages

The page of a command follows from the answer of the host.  A turn of a batch of pages is the
report, one call to the host, and either the page or a warning.
-/

namespace CommandDocs

open Files (Path Bytes Location)

variable {η : Type}

def pagePath (dir : Path) (command : String) : Path :=
  dir.child (command ++ ".html")

/-- The page of a command, as the temporary file with its help text gives it. -/
def Temporary.page (frame : Frame) (number : Nat) (answer : Except Host.Fault Host.HelpFile) :
    Except Failure Bytes :=
  (fields number answer).map fun fields =>
    Text.encodeText (Page.render frame.header frame.footer fields)

/-- The page that comes of what a host answers, if one does. -/
def Frame.ownPage (frame : Frame) (answer : Except Host.Fault Host.HelpFile) : Option Bytes := do
  let bytes ← Host.helpBytes answer
  let text ← (Text.decodeDocument bytes).toOption
  let fields ← (Help.extract text).toOption
  return Text.encodeText (Page.render frame.header frame.footer fields)

theorem Temporary.toOption_page (frame : Frame) (number : Nat)
    (answer : Except Host.Fault Host.HelpFile) :
    (page frame number answer).toOption = frame.ownPage answer := by
  rw [page, toOption_map, fields, toOption_bind, toOption_helpText, Frame.ownPage]
  cases Host.helpBytes answer with
  | none => rfl
  | some bytes =>
      simp only [toOption_mapError, Option.bind_some, bind]
      cases (Text.decodeDocument bytes).toOption with
      | none => rfl
      | some text =>
          rw [Option.bind_some, Option.bind_some]
          cases (Help.extract text).toOption <;> rfl

theorem Temporary.page_eq_ok_iff {frame : Frame} {number : Nat}
    {answer : Except Host.Fault Host.HelpFile} {bytes : Bytes} :
    page frame number answer = .ok bytes ↔ frame.ownPage answer = some bytes := by
  rw [← toOption_page frame number answer]
  cases page frame number answer <;> simp [Except.toOption]

theorem Temporary.ownPage_eq_none {frame : Frame} {number : Nat}
    {answer : Except Host.Fault Host.HelpFile} {failure : Failure}
    (pageless : page frame number answer = .error failure) : frame.ownPage answer = none := by
  rw [← toOption_page frame number answer, pageless]
  rfl

/-- The workspace when the help of a command has been read. -/
def Workspace.consulted (w : Workspace η) (host : Host η) (width : Int) (command : String) :
    Workspace η :=
  { w.fetched host width command with
    log := (w.fetched host width command).log ++
      Temporary.notes (w.made + 1) (w.helpCall host width command).1 }

section Rendering

variable {w : Workspace η} (fresh : w.Fresh) {host : Host η} {width : Int} {frame : Frame}
  {dir : Path} {command : String}
include fresh

/-- A command without a page leaves nothing behind. -/
theorem run_renderPage_of_failure {failure : Failure}
    (pageless : Temporary.page frame (w.made + 1) (w.helpCall host width command).1 =
      .error failure) :
    (renderPage host width frame dir command).run w =
      (.error failure, w.consulted host width command) := by
  have read := run_fetchFields fresh host width command
  cases found : Temporary.fields (w.made + 1) (w.helpCall host width command).1 with
  | ok fields => simp [Temporary.page, found, Except.map] at pageless
  | error fault =>
      rw [Temporary.page, found] at pageless
      cases pageless
      rw [found] at read
      exact run_bind_of_error read

/-- A command with a page comes to the writing of it. -/
theorem run_renderPage_of_fields {fields : Help.Fields}
    (found : Temporary.fields (w.made + 1) (w.helpCall host width command).1 = .ok fields) :
    (renderPage host width frame dir command).run w =
      (do
        Act.writeText (pagePath dir command) (Page.render frame.header frame.footer fields)
        Act.note .debug ("Wrote " ++ (pagePath dir command).text)
        return pagePath dir command : Act η Path).run (w.consulted host width command) := by
  have read := run_fetchFields fresh host width command
  rw [found] at read
  exact run_bind_of_ok read

/-- A page is written to its path. -/
theorem run_renderPage_of_page {bytes : Bytes} {store : Files.Store}
    (page : Temporary.page frame (w.made + 1) (w.helpCall host width command).1 = .ok bytes)
    (written : w.store.write w.here (pagePath dir command) bytes = .ok store) :
    (renderPage host width frame dir command).run w =
      (.ok (pagePath dir command),
        { w.consulted host width command with
          store
          log := (w.consulted host width command).log ++
            [⟨.debug, "Wrote " ++ (pagePath dir command).text⟩] }) := by
  obtain ⟨fields, found, rfl⟩ := exists_of_map_eq_ok page
  have wrote := Act.run_writeText_of_ok (w := w.consulted host width command) written
  rw [run_renderPage_of_fields fresh found, run_bind_of_ok wrote]
  rfl

/-- A page that cannot be written fails with the fault of the files. -/
theorem run_renderPage_of_refusal {bytes : Bytes} {fault : Files.Fault}
    (page : Temporary.page frame (w.made + 1) (w.helpCall host width command).1 = .ok bytes)
    (refused : w.store.write w.here (pagePath dir command) bytes = .error fault) :
    (renderPage host width frame dir command).run w =
      (.error (.file fault), w.consulted host width command) := by
  obtain ⟨fields, found, rfl⟩ := exists_of_map_eq_ok page
  have stuck := Act.run_writeText_of_error (w := w.consulted host width command) refused
  rw [run_renderPage_of_fields fresh found, run_bind_of_error stuck]

end Rendering

/-! ## Turns -/

/-- The turn of a command in a batch of pages.  The host is called once, in the workspace in which
the command has been reported; after that the page is written, or one warning is logged. -/
inductive PageTurn (host : Host η) (batch : Batch) (frame : Frame) (dir : Path) (total : Nat) :
    Nat → String → Workspace η → Except Failure Path → Workspace η → Prop
  | written {index : Nat} {command : String} {w announced : Workspace η} {bytes : Bytes}
      {store : Files.Store} (reported : announced = batch.announced total index command w)
      (page : Temporary.page frame (w.made + 1) (announced.helpCall host batch.width command).1 =
        .ok bytes)
      (stored : w.store.write w.here (pagePath dir command) bytes = .ok store) :
      PageTurn host batch frame dir total index command w (.ok (pagePath dir command))
        { announced.consulted host batch.width command with
          store
          log := (announced.consulted host batch.width command).log ++
            [⟨.debug, "Wrote " ++ (pagePath dir command).text⟩] }
  | skipped {index : Nat} {command : String} {w announced : Workspace η} {failure : Failure}
      (reported : announced = batch.announced total index command w)
      (pageless : Temporary.page frame (w.made + 1)
        (announced.helpCall host batch.width command).1 = .error failure)
      (goes : batch.goesOn failure = true) :
      PageTurn host batch frame dir total index command w (.error failure)
        { announced.consulted host batch.width command with
          log := (announced.consulted host batch.width command).log ++
            [⟨.warning, "Skipping " ++ command ++ ": " ++ failure.message⟩] }

theorem Workspace.Fresh.announced {w : Workspace η} (fresh : w.Fresh) (batch : Batch)
    (total index : Nat) (command : String) : (batch.announced total index command w).Fresh := by
  intro file member
  rw [Batch.temporary_announced] at member
  exact fresh file member

/-- The warning that a batch of pages logs. -/
def skipping (command : String) (failure : Failure) : String :=
  "Skipping " ++ command ++ ": " ++ failure.message

/-- Pages are all or nothing: a turn that is kept or skipped is one of a written page or of a
command without one. -/
theorem pageTurn_of_turn {host : Host η} {batch : Batch} {frame : Frame} {dir : Path}
    {total index : Nat} {command : String} {w after : Workspace η} {outcome : Except Failure Path}
    (fresh : w.Fresh)
    (turn : batch.Turn (renderPage host batch.width frame dir) skipping total index command w
      outcome after) :
    PageTurn host batch frame dir total index command w outcome after := by
  have ready := fresh.announced batch total index command
  cases page : Temporary.page frame (w.made + 1)
      ((batch.announced total index command w).helpCall host batch.width command).1 with
  | error failure =>
      have rendered : (renderPage host batch.width frame dir command).run _ = _ :=
        run_renderPage_of_failure ready page
      cases turn with
      | kept ran =>
          rw [rendered] at ran
          cases ran
      | skipped ran goes =>
          rw [rendered] at ran
          cases ran
          exact .skipped rfl page goes
  | ok bytes =>
      cases stored : w.store.write w.here (pagePath dir command) bytes with
      | error fault =>
          have rendered := run_renderPage_of_refusal ready page stored
          cases turn with
          | kept ran =>
              rw [rendered] at ran
              cases ran
          | skipped ran goes =>
              rw [rendered] at ran
              cases ran
              cases goes
      | ok store =>
          have rendered := run_renderPage_of_page ready page stored
          cases turn with
          | kept ran =>
              rw [rendered] at ran
              cases ran
              exact .written rfl page stored
          | skipped ran goes =>
              rw [rendered] at ran
              cases ran

theorem turn_of_pageTurn {host : Host η} {batch : Batch} {frame : Frame} {dir : Path}
    {total index : Nat} {command : String} {w after : Workspace η} {outcome : Except Failure Path}
    (fresh : w.Fresh) (turn : PageTurn host batch frame dir total index command w outcome after) :
    batch.Turn (renderPage host batch.width frame dir) skipping total index command w outcome
      after := by
  have ready := fresh.announced batch total index command
  cases turn with
  | written reported page stored =>
      subst reported
      exact .kept (run_renderPage_of_page ready page stored)
  | skipped reported page goes =>
      subst reported
      exact .skipped (run_renderPage_of_failure ready page) goes

theorem PageTurn.temporary_eq {host : Host η} {batch : Batch} {frame : Frame} {dir : Path}
    {total index : Nat} {command : String} {w after : Workspace η} {outcome : Except Failure Path}
    (turn : PageTurn host batch frame dir total index command w outcome after) (fresh : w.Fresh) :
    after.temporary = w.temporary := by
  have fetched := ((fresh.announced batch total index command).temporary_fetched host batch.width
    command).trans (batch.temporary_announced total index command w)
  cases turn with
  | written reported page stored =>
      subst reported
      exact fetched
  | skipped reported page goes =>
      subst reported
      exact fetched

theorem PageTurn.made_eq {host : Host η} {batch : Batch} {frame : Frame} {dir : Path}
    {total index : Nat} {command : String} {w after : Workspace η} {outcome : Except Failure Path}
    (turn : PageTurn host batch frame dir total index command w outcome after) :
    after.made = w.made + 1 := by
  cases turn with
  | written reported page stored => rw [reported]; rfl
  | skipped reported pageless goes => rw [reported]; rfl

theorem PageTurn.fresh {host : Host η} {batch : Batch} {frame : Frame} {dir : Path}
    {total index : Nat} {command : String} {w after : Workspace η} {outcome : Except Failure Path}
    (turn : PageTurn host batch frame dir total index command w outcome after) (fresh : w.Fresh) :
    after.Fresh := by
  intro file member
  rw [turn.temporary_eq fresh] at member
  rw [turn.made_eq]
  exact Nat.le_succ_of_le (fresh file member)

/-- A workspace that a batch comes to: apart from files, which are written where no directory
stands, it differs only in what counts, reports and logs. -/
structure Workspace.Onward (w : Workspace η) (settled : η → Prop) (v : Workspace η) : Prop where
  fresh : v.Fresh
  settled : settled v.host
  here : v.here = w.here
  home : v.home = w.home
  temporary : v.temporary = w.temporary
  directories : w.store.SameDirectories v.store

theorem PageTurn.onward {settled : η → Prop} {host : Host η} (keeps : host.Keeps settled)
    {batch : Batch} {frame : Frame} {dir : Path} {total index : Nat} {command : String}
    {w v after : Workspace η} {outcome : Except Failure Path} (onward : w.Onward settled v)
    (turn : PageTurn host batch frame dir total index command v outcome after) :
    w.Onward settled after := by
  have fresh := turn.fresh onward.fresh
  have temporary := (turn.temporary_eq onward.fresh).trans onward.temporary
  have kept := keeps.writeHelp command (Temporary.path (v.made + 1)) batch.width
    ⟨v.host, v.log⟩ onward.settled
  cases turn with
  | written reported page stored =>
      subst reported
      obtain ⟨location, led, free, rfl⟩ := Files.Store.write_eq_ok_iff.mp stored
      exact {
        fresh
        settled := kept
        here := onward.here
        home := onward.home
        temporary
        directories := onward.directories.trans (Files.Store.sameDirectories_put free _)
      }
  | skipped reported pageless goes =>
      subst reported
      exact {
        fresh
        settled := kept
        here := onward.here
        home := onward.home
        temporary
        directories := onward.directories
      }

end CommandDocs

import CommandDocs.Manifest
import CommandDocs.Proofs.Bundle.Exact
import CommandDocs.Proofs.Files.Frames
import CommandDocs.Proofs.Workspace.Course

/-!
# Writers are all or nothing

A writer prepares a text before it touches any file, and then writes it in one piece.  Whatever
goes wrong while the text is prepared or the file is opened, all files are as they were.
-/

namespace CommandDocs

open Files (Path)
open Files.Store (SameDirectories SameFilesBut)

variable {η α β : Type}

/-! ## Writing one file -/

def Workspace.SameStore (w after : Workspace η) : Prop :=
  after.store = w.store ∧ after.here = w.here

/-- A workspace after exactly one file has been written: the one at a path, with a text. -/
structure Workspace.Wrote (w : Workspace η) (p : Path) (text : String) (after : Workspace η) :
    Prop where
  stored : after.store.read after.here p = .ok (Text.encodeText text)
  here : after.here = w.here
  directories : SameDirectories w.store after.store
  others : SameFilesBut (fun location => w.store.locate w.here p = .ok location) w.store after.store

/-- An activity that either fails and leaves all files as they were, or writes one file whole.
It comes to those results that are ready, each with the text that it writes. -/
structure Act.AllOrNothing (act : Act η α) (path : α → Path)
    (ready : Workspace η → α → String → Prop) : Prop where
  failed : ∀ w failure after, act.run w = (.error failure, after) → w.SameStore after
  wrote : ∀ w value after, act.run w = (.ok value, after) →
    ∃ text, ready w value text ∧ w.Wrote (path value) text after
  returns : ∀ w value text, ready w value text →
    (∃ store, w.store.write w.here (path value) (Text.encodeText text) = .ok store) →
      ∃ after, act.run w = (.ok value, after)

namespace Act.AllOrNothing

variable {path : α → Path} {ready : Workspace η → α → String → Prop}

/-- A text that is written, with nothing but a log line after it. -/
theorem writeText (path : α → Path) (value : α) (text : String) {rest : Act η α}
    (logs : ∀ w, ∃ log, rest.run w = (.ok value, { w with log })) :
    AllOrNothing (Act.writeText (path value) text >>= fun _ => rest) path
      fun _ result given => result = value ∧ given = text where
  failed w failure after ran := by
    cases written : w.store.write w.here (path value) (Text.encodeText text) with
    | error fault =>
        rw [run_bind_of_error (Act.run_writeText_of_error written)] at ran
        cases ran
        exact ⟨rfl, rfl⟩
    | ok store =>
        obtain ⟨log, ended⟩ := logs { w with store }
        rw [run_bind_of_ok (Act.run_writeText_of_ok written), ended] at ran
        cases ran
  wrote w result after ran := by
    cases written : w.store.write w.here (path value) (Text.encodeText text) with
    | error fault =>
        rw [run_bind_of_error (Act.run_writeText_of_error written)] at ran
        cases ran
    | ok store =>
        obtain ⟨log, ended⟩ := logs { w with store }
        rw [run_bind_of_ok (Act.run_writeText_of_ok written), ended] at ran
        cases ran
        obtain ⟨directories, others⟩ := Files.Store.frame_of_write written
        exact ⟨text, ⟨rfl, rfl⟩, Files.Store.read_of_write written, rfl, directories, others⟩
  returns w result given own writable := by
    obtain ⟨rfl, rfl⟩ := own
    obtain ⟨store, written⟩ := writable
    obtain ⟨log, ended⟩ := logs { w with store }
    exact ⟨_, (run_bind_of_ok (Act.run_writeText_of_ok written)).trans ended⟩

/-- What is done before leaves the files as they are. -/
theorem after {act : Act η β} {next : β → Act η α}
    {readyAfter : β → Workspace η → α → String → Prop}
    (spares : act.Within Workspace.SameStore)
    (own : ∀ prepared, (next prepared).AllOrNothing path (readyAfter prepared)) :
    (act >>= next).AllOrNothing path fun w value text =>
      ∃ prepared, (act.run w).1 = .ok prepared ∧
        readyAfter prepared (act.run w).2 value text where
  failed w failure after ran := by
    have before := spares w
    rw [run_bind] at ran
    cases began : act.run w with
    | mk outcome middle =>
        rw [began] at ran before
        cases outcome with
        | error other =>
            cases ran
            exact before
        | ok prepared =>
            have later := (own prepared).failed middle failure after ran
            exact ⟨later.1.trans before.1, later.2.trans before.2⟩
  wrote w value after ran := by
    obtain ⟨prepared, middle, began, later⟩ := exists_of_run_bind_ok ran
    have before := spares w
    rw [began] at before
    obtain ⟨text, own, wrote⟩ := (own prepared).wrote middle value after later
    refine ⟨text, ⟨prepared, by rw [began], by rwa [began]⟩, wrote.stored,
      wrote.here.trans before.2, ?_, ?_⟩
    · rw [← before.1]
      exact wrote.directories
    · rw [← before.1, ← before.2]
      exact wrote.others
  returns w value text := by
    rintro ⟨prepared, began, ready⟩ writable
    have before := spares w
    rw [← before.1, ← before.2] at writable
    rw [run_bind_of_ok (Prod.ext began rfl)]
    exact (own prepared).returns _ value text ready writable

theorem congr {act : Act η α} {other : Workspace η → α → String → Prop}
    (own : act.AllOrNothing path ready)
    (same : ∀ w value text, ready w value text ↔ other w value text) :
    act.AllOrNothing path other := by
  have equal : ready = other := by
    funext w value text
    exact propext (same w value text)
  exact equal ▸ own

end Act.AllOrNothing

/-! ## What leaves the files as they are -/

namespace Workspace.SameStore

theorem refl (w : Workspace η) : w.SameStore w :=
  ⟨rfl, rfl⟩

theorem trans {u v w : Workspace η} (first : u.SameStore v) (second : v.SameStore w) :
    u.SameStore w :=
  ⟨second.1.trans first.1, second.2.trans first.2⟩

/-- A batch that writes nothing leaves the files as they are. -/
theorem isCourse (host : Host η) : IsCourse host Workspace.SameStore where
  refl := refl
  trans := trans
  noted _ _ := ⟨rfl, rfl⟩
  reported _ _ := ⟨rfl, rfl⟩
  commandExists _ _ := ⟨rfl, rfl⟩
  moduleExists _ _ := ⟨rfl, rfl⟩
  moduleCommands _ _ := ⟨rfl, rfl⟩
  fetched _ _ _ := ⟨rfl, rfl⟩

theorem of_onlyLooks {kind : Failure → Prop} {act : Act η α} (looks : act.OnlyLooks kind) :
    act.Within Workspace.SameStore := by
  intro w
  obtain ⟨log, same⟩ := looks.unchanged w
  rw [same]
  exact ⟨rfl, rfl⟩

end Workspace.SameStore

/-! ## The writers -/

/-- A directory that is needed is asked for before anything is written. -/
theorem Act.AllOrNothing.required {path : α → Path} {ready : Workspace η → α → String → Prop}
    {next : Act η α} (own : next.AllOrNothing path ready) (p : Path) (failure : Failure) :
    (Act.isDirectory p >>= fun there => Act.require there failure >>= fun _ => next).AllOrNothing
      path fun w value text => w.store.isDirectory w.here p = .ok true ∧ ready w value text := by
  have asks : (Act.isDirectory p : Act η Bool).Within Workspace.SameStore := by
    intro w
    rw [Act.run_isDirectory]
    exact .refl w
  have checks (there : Bool) : (Act.require there failure : Act η Unit).Within
      Workspace.SameStore := by
    intro w
    rw [Act.run_require]
    exact .refl w
  refine (Act.AllOrNothing.after asks fun there => .after (checks there) fun _ => own).congr ?_
  intro w value text
  rw [Act.run_isDirectory]
  cases found : w.store.isDirectory w.here p with
  | error fault => simp [Except.mapError]
  | ok there => cases there <;> simp [Act.run_require, Except.mapError]

theorem allOrNothing_writeManifest (bundle : Bundle) (p : Path) :
    (writeManifest bundle p : Act η Path).AllOrNothing id fun _ value text =>
      value = p ∧ text = Manifest.text bundle :=
  .writeText id p _ fun w => ⟨w.log, rfl⟩

theorem allOrNothing_renderPage (host : Host η) (width : Int) (frame : Frame) (dir : Path)
    (command : String) :
    (renderPage host width frame dir command).AllOrNothing id fun w value text =>
      ∃ fields, ((fetchFields host width command).run w).1 = .ok fields ∧
        value = dir.child (command ++ ".html") ∧
          text = Page.render frame.header frame.footer fields := by
  have fetches := (Workspace.SameStore.isCourse host).fetchFields width command
  unfold renderPage
  exact .after fetches fun fields =>
    .writeText id (dir.child (command ++ ".html")) _ fun w => ⟨_, rfl⟩

theorem allOrNothing_writeSummary (host : Host η) (batch : Batch) (dir : Path)
    (fileName module : String) (render : List Summary.Entry → String) :
    (writeSummary host batch dir fileName module render).AllOrNothing id fun w value text =>
      w.store.isDirectory w.here dir = .ok true ∧
        ∃ entries, ((collect host batch module).run w).1 = .ok entries ∧
          value = dir.child fileName ∧ text = render entries := by
  have collects := (Workspace.SameStore.isCourse host).collect batch module
  unfold writeSummary requireOutput
  rw [bind_assoc]
  exact .required (.after collects fun entries =>
    .writeText id (dir.child fileName) _ fun w => ⟨_, rfl⟩) dir _

theorem allOrNothing_writeBundle (module extension : String) (source output : Path)
    (selection : Selection) :
    (writeBundle module source output selection extension : Act η Bundle).AllOrNothing
      Bundle.output fun w bundle text =>
        w.store.isDirectory w.here source = .ok true ∧
          w.store.isDirectory w.here output = .ok true ∧
          ∃ paths, ((listSources source selection).run w).1 = .ok paths ∧
            ∃ parts, partsIn w.store w.here paths = .ok parts ∧
              bundle = ⟨bundlePath output module extension, parts⟩ ∧
              text = bundle.content := by
  have lists := Workspace.SameStore.of_onlyLooks
    (onlyLooks_listSources source selection : Act.OnlyLooks _ (_ : Act η (List Path)))
  have reads (paths : List Path) : (readParts paths : Act η (List Part)).Within
      Workspace.SameStore := by
    intro w
    rw [run_readParts]
    exact .refl w
  unfold writeBundle
  refine .required (.required (.congr (.after lists fun paths => .after (reads paths) fun parts =>
    .writeText Bundle.output ⟨bundlePath output module extension, parts⟩ _
      fun w => ⟨_, rfl⟩) ?_) output _) source _
  intro w bundle text
  have same := lists w
  simp only [run_readParts, same.1, same.2]
  refine exists_congr fun paths => and_congr_right fun _ => exists_congr fun parts =>
    and_congr_right fun _ => and_congr_right ?_
  rintro rfl
  rfl

/-- Bundles, manifests, pages and summaries are written all or nothing.  A writer that fails
leaves all files as they were; one that returns has written exactly the file that it names, with
the text it had prepared; and it returns when there is such a text and its file can be
written. -/
theorem writers_allOrNothing :
    (∀ module extension source output selection,
      (writeBundle module source output selection extension : Act η Bundle).AllOrNothing
        Bundle.output fun w bundle text =>
          w.store.isDirectory w.here source = .ok true ∧
            w.store.isDirectory w.here output = .ok true ∧
            ∃ paths, ((listSources source selection).run w).1 = .ok paths ∧
              ∃ parts, partsIn w.store w.here paths = .ok parts ∧
                bundle = ⟨bundlePath output module extension, parts⟩ ∧ text = bundle.content) ∧
    (∀ bundle p, (writeManifest bundle p : Act η Path).AllOrNothing id fun _ value text =>
      value = p ∧ text = Manifest.text bundle) ∧
    (∀ (host : Host η) width frame dir command,
      (renderPage host width frame dir command).AllOrNothing id fun w value text =>
        ∃ fields, ((fetchFields host width command).run w).1 = .ok fields ∧
          value = dir.child (command ++ ".html") ∧
            text = Page.render frame.header frame.footer fields) ∧
    (∀ (host : Host η) batch dir fileName module flagged,
      (writeHtml host batch dir fileName module flagged).AllOrNothing id fun w value text =>
        w.store.isDirectory w.here dir = .ok true ∧
          ∃ entries, ((collect host batch module).run w).1 = .ok entries ∧
            value = dir.child (fileNameOr (module ++ ".html") fileName) ∧
              text = Summary.renderHtml module entries flagged) ∧
    ∀ (host : Host η) batch dir fileName module address flagged,
      (writeMarkdown host batch dir fileName module address flagged).AllOrNothing id
        fun w value text =>
          w.store.isDirectory w.here dir = .ok true ∧
            ∃ entries, ((collect host batch module).run w).1 = .ok entries ∧
              value = dir.child (fileNameOr "README.md" fileName) ∧
                text = Summary.renderMarkdown module entries address flagged := by
  refine ⟨?_, ?_, ?_, ?_, ?_⟩
  · exact allOrNothing_writeBundle
  · exact allOrNothing_writeManifest
  · exact allOrNothing_renderPage
  · intro host batch dir fileName module flagged
    exact allOrNothing_writeSummary host batch dir _ module _
  · intro host batch dir fileName module address flagged
    exact allOrNothing_writeSummary host batch dir _ module _

end CommandDocs

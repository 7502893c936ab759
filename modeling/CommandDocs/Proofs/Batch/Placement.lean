import CommandDocs.Proofs.Batch.Resolving
import CommandDocs.Proofs.Files.Children
import CommandDocs.Proofs.Help.Reading
import CommandDocs.Proofs.Workspace.Writers

/-!
# Where a batch of pages writes

A batch of pages changes no file but those to which the pages of its commands lead.  Such a page
stands in the output directory, under the name of its command, exactly when that name holds no
slash.  A host that lists a command with a slash can therefore make the batch write elsewhere.
-/

namespace CommandDocs

open Files (Path Location)
open Files.Store (SameDirectories locate_eq_ok_of_sameDirectories)

variable {η : Type}

/-! ## Changes at some paths -/

/-- A workspace in which nothing has changed among the files but where some paths lead. -/
structure Workspace.ChangesAt (paths : Path → Prop) (w after : Workspace η) : Prop where
  here : after.here = w.here
  directories : SameDirectories w.store after.store
  entries : ∀ location, after.store.at? location ≠ w.store.at? location →
    ∃ p, paths p ∧ w.store.locate w.here p = .ok location

namespace Workspace.ChangesAt

variable {paths : Path → Prop}

theorem of_sameStore {w after : Workspace η} (same : w.SameStore after) :
    w.ChangesAt paths after where
  here := same.2
  directories := by rw [same.1]; exact .refl _
  entries location changed := absurd (by rw [same.1]) changed

theorem trans {u v w : Workspace η} (first : u.ChangesAt paths v) (second : v.ChangesAt paths w) :
    u.ChangesAt paths w where
  here := second.here.trans first.here
  directories := first.directories.trans second.directories
  entries location changed := by
    by_cases same : v.store.at? location = u.store.at? location
    · obtain ⟨p, own, led⟩ := second.entries location (by rwa [same])
      refine ⟨p, own, ?_⟩
      rw [← first.here]
      exact locate_eq_ok_of_sameDirectories first.directories.symm led
    · exact first.entries location same

/-- What leaves the files alone is a course of changes at any paths. -/
theorem isCourse (paths : Path → Prop) (host : Host η) :
    IsCourse host (Workspace.ChangesAt paths) where
  refl w := of_sameStore (.refl w)
  trans := trans
  noted w note := of_sameStore ((SameStore.isCourse host).noted w note)
  reported w progress := of_sameStore ((SameStore.isCourse host).reported w progress)
  commandExists w name := of_sameStore ((SameStore.isCourse host).commandExists w name)
  moduleExists w name := of_sameStore ((SameStore.isCourse host).moduleExists w name)
  moduleCommands w name := of_sameStore ((SameStore.isCourse host).moduleCommands w name)
  fetched w width command := of_sameStore ((SameStore.isCourse host).fetched w width command)

theorem holdsOfWritesAt {p : Path} (own : paths p) :
    HoldsOfWritesAt (Workspace.ChangesAt paths : Workspace η → Workspace η → Prop) p := by
  intro w bytes store written
  obtain ⟨location, led, free, rfl⟩ := Files.Store.write_eq_ok_iff.mp written
  refine ⟨rfl, Files.Store.sameDirectories_put free bytes, fun other changed => ⟨p, own, ?_⟩⟩
  by_cases same : other = location
  · rw [same]
    exact led
  · exact absurd (Files.Store.at?_put_of_ne _ same _) changed

end Workspace.ChangesAt

/-! ## The pages of a batch -/

/-- The commands that a name stands for; there are none if the host does not give any. -/
def commandsOf (host : Host η) (batch : Batch) (name : String) (w : Workspace η) : List String :=
  match ((resolve host batch name).run w).1 with
  | .ok commands => commands
  | .error _ => []

section Pages

variable (host : Host η) (batch : Batch) (frame : Frame) (dir : Path) (name : String)
  (w : Workspace η)

/-- A batch of pages has its directory, or it leaves everything as it is. -/
theorem there_or_unchanged :
    w.store.isDirectory w.here dir = .ok true ∨
      ((renderPages host batch frame dir name).run w).2 = w := by
  cases there : w.store.isDirectory w.here dir with
  | ok answer =>
      cases answer with
      | true => exact Or.inl rfl
      | false => exact Or.inr (by rw [run_renderPages_of_missing there])
  | error fault => exact Or.inr (by rw [run_renderPages_of_fault there])

theorem changesAt_renderPages :
    w.ChangesAt (fun p => ∃ command ∈ commandsOf host batch name w, p = pagePath dir command)
      ((renderPages host batch frame dir name).run w).2 := by
  rcases there_or_unchanged host batch frame dir name w with there | same
  · have asked := (Workspace.SameStore.isCourse host).resolve batch name w
    unfold commandsOf renderPages
    rw [run_bind_of_ok (run_requireOutput_of_there there)]
    cases resolved : (resolve host batch name).run w with
    | mk outcome w₀ =>
        rw [resolved] at asked
        cases outcome with
        | error failure =>
            rw [run_bind_of_error resolved]
            exact .of_sameStore asked
        | ok commands =>
            rw [run_bind_of_ok resolved]
            refine (Workspace.ChangesAt.of_sameStore asked).trans ?_
            have course := Workspace.ChangesAt.isCourse
              (fun p => ∃ command ∈ commands, p = pagePath dir command) host
            have pages (command : String) (member : command ∈ commands) :=
              course.renderPage (Workspace.ChangesAt.holdsOfWritesAt ⟨command, member, rfl⟩)
                batch.width frame
            exact course.bind (course.run batch pages _ _ _) (fun outcomes =>
              course.bind (course.note _ _) fun _ => course.pure _) w₀
  · rw [same]
    exact .of_sameStore (.refl w)

end Pages

/-! ## Pages in their directory -/

/-- Whether a location is that of the page of a command in a directory: that of a child whose name
is the name of the command with its ending. -/
def Workspace.IsPageIn (w : Workspace η) (dir : Path) (command : String) (location : Location) :
    Prop :=
  ∃ above, w.store.locate w.here dir = .ok above ∧ location = above ++ [command ++ ".html"]

/-- Whether nothing has changed but the pages of some commands in a directory. -/
def Workspace.Confined (w : Workspace η) (dir : Path) (commands : List String)
    (after : Workspace η) : Prop :=
  ∀ location, after.store.at? location ≠ w.store.at? location →
    ∃ command ∈ commands, w.IsPageIn dir command location

theorem isEnding_html : Files.IsEnding ".html" where
  flat := by decide
  long := by decide

/-- A page stands in its directory exactly when the name of its command holds no slash. -/
theorem isPageIn_iff {w : Workspace η} {dir : Path} {command : String} {location : Location}
    (there : w.store.isDirectory w.here dir = .ok true)
    (led : w.store.locate w.here (pagePath dir command) = .ok location) :
    w.IsPageIn dir command location ↔ '/' ∉ command.toList := by
  obtain ⟨above, found⟩ := Files.Store.exists_locate_of_isDirectory there
  rw [← Files.Store.locate_child_eq_iff isEnding_html found led]
  constructor
  · rintro ⟨other, again, same⟩
    rw [found] at again
    rw [same, Except.ok.inj again]
  · exact fun same => ⟨above, found, same⟩

/-- **A batch of pages changes nothing but pages, and these stand in their directory exactly when
their commands hold no slash.**  No directory is made or removed.  Every location that has changed
is one to which the page of one of the commands leads, and it is that of a child of the directory
with the name of that command exactly when the name holds no slash.  So a batch stays in its
directory when no command has a slash in its name. -/
theorem renderPages_changes (host : Host η) (batch : Batch) (frame : Frame) (dir : Path)
    (name : String) (w : Workspace η) :
    SameDirectories w.store ((renderPages host batch frame dir name).run w).2.store ∧
    (∀ location, ((renderPages host batch frame dir name).run w).2.store.at? location ≠
        w.store.at? location →
      ∃ command ∈ commandsOf host batch name w,
        w.store.locate w.here (pagePath dir command) = .ok location ∧
          (w.IsPageIn dir command location ↔ '/' ∉ command.toList)) ∧
    ((∀ command ∈ commandsOf host batch name w, '/' ∉ command.toList) →
      w.Confined dir (commandsOf host batch name w)
        ((renderPages host batch frame dir name).run w).2) := by
  have changes := changesAt_renderPages host batch frame dir name w
  have pages : ∀ location, ((renderPages host batch frame dir name).run w).2.store.at? location ≠
      w.store.at? location → ∃ command ∈ commandsOf host batch name w,
        w.store.locate w.here (pagePath dir command) = .ok location ∧
          (w.IsPageIn dir command location ↔ '/' ∉ command.toList) := by
    intro location changed
    obtain ⟨p, ⟨command, member, rfl⟩, led⟩ := changes.entries location changed
    rcases there_or_unchanged host batch frame dir name w with there | same
    · exact ⟨command, member, led, isPageIn_iff there led⟩
    · exact absurd (by rw [same]) changed
  refine ⟨changes.directories, pages, fun flat location changed => ?_⟩
  obtain ⟨command, member, led, placed⟩ := pages location changed
  exact ⟨command, member, placed.mpr (flat command member)⟩

/-- A module with one command, whose name leads out of the directory for its page and to another
file. -/
def upwards : Workspace Host.Catalogue where
  store := ⟨[(["out"], .directory), (["index.html"], .file [0x6D, 0x69, 0x6E, 0x65])]⟩
  host := { modules := [("Tools", ["../index"])], help := [("../index", .text [])] }

theorem commandsOf_upwards : commandsOf Host.catalogue {} "Tools" upwards = ["../index"] :=
  rfl

/-- The page of an empty help text starts with the bracket of a tag. -/
theorem exists_page_upwards :
    ∃ bytes, Temporary.page {} 1 (.ok (.written [])) = .ok bytes ∧ bytes.head? = some 0x3C := by
  have text : Text.decodeDocument [] = .ok "" := by decide +kernel
  have read : Help.extract "" = .ok (Help.fieldsOf [[]] []) := by
    rw [Help.extract_eq_map]
    rfl
  refine ⟨Text.encodeText (Page.render "" "" (Help.fieldsOf [[]] [])), ?_, by decide +kernel⟩
  rw [Temporary.page_eq_ok_iff]
  simp only [Frame.ownPage, Host.helpBytes, bind, text, read, Except.toOption, Option.bind]
  rfl

theorem exists_at?_upwards :
    ∃ bytes, ((renderPages Host.catalogue {} {} ⟨.here, ["out"]⟩ "Tools").run
      upwards).2.store.at? ["index.html"] = some (.file bytes) ∧ bytes.head? = some 0x3C := by
  obtain ⟨bytes, page, tag⟩ := exists_page_upwards
  have there : upwards.store.isDirectory upwards.here ⟨.here, ["out"]⟩ = .ok true :=
    Files.Store.isDirectory_eq_true_iff.mpr
      ⟨["out"], Files.Store.locate_of_walk (by decide) (by decide) rfl, rfl⟩
  have resolved : (resolve Host.catalogue {} "Tools").run upwards =
      (.ok ["../index"], ((resolve Host.catalogue {} "Tools").run upwards).2) := rfl
  generalize found : ((resolve Host.catalogue {} "Tools").run upwards).2 = w₀ at resolved
  have led : w₀.store.locate w₀.here (pagePath ⟨.here, ["out"]⟩ "../index") =
      .ok ["index.html"] := by
    rw [← found]
    exact Files.Store.locate_of_walk (by decide) (by decide) rfl
  have free : w₀.store.at? ["index.html"] ≠ some .directory := by
    rw [← found]
    decide +kernel
  have written : w₀.store.write w₀.here (pagePath ⟨.here, ["out"]⟩ "../index") bytes =
      .ok (w₀.store.put ["index.html"] (.file bytes)) :=
    Files.Store.write_eq_ok_iff.mpr ⟨_, led, free, rfl⟩
  have fresh : w₀.Fresh := by
    rw [← found]
    exact fun file member => by cases member
  have answered : Temporary.page {} (w₀.made + 1)
      ((Batch.announced {} 1 1 "../index" w₀).helpCall Host.catalogue 500 "../index").1 =
        .ok bytes := by
    rw [← page, ← found]
    rfl
  obtain ⟨after, ran, kept⟩ := run_renderPages_of_single there resolved fresh answered written
  rw [ran]
  refine ⟨bytes, ?_, tag⟩
  rw [kept]
  exact Files.Store.at?_put_self _ (by decide) _

/-- A listed command with a slash lets the batch overwrite a file beside its directory. -/
theorem not_confined_upwards :
    ((renderPages Host.catalogue {} {} ⟨.here, ["out"]⟩ "Tools").run upwards).2.store.at?
        ["index.html"] ≠ upwards.store.at? ["index.html"] ∧
      ¬upwards.Confined ⟨.here, ["out"]⟩ (commandsOf Host.catalogue {} "Tools" upwards)
        ((renderPages Host.catalogue {} {} ⟨.here, ["out"]⟩ "Tools").run upwards).2 := by
  have changed : ((renderPages Host.catalogue {} {} ⟨.here, ["out"]⟩ "Tools").run
      upwards).2.store.at? ["index.html"] ≠ upwards.store.at? ["index.html"] := by
    obtain ⟨bytes, written, tag⟩ := exists_at?_upwards
    have before : upwards.store.at? ["index.html"] = some (.file [0x6D, 0x69, 0x6E, 0x65]) := by
      decide +kernel
    intro same
    rw [written, before] at same
    cases same
    cases tag
  refine ⟨changed, fun confined => ?_⟩
  obtain ⟨command, member, _, placed⟩ :=
    (renderPages_changes Host.catalogue {} {} ⟨.here, ["out"]⟩ "Tools" upwards).2.1 _ changed
  obtain ⟨other, listed, inside⟩ := confined _ changed
  rw [commandsOf_upwards, List.mem_singleton] at member listed
  subst member listed
  exact absurd (placed.mp inside) (by decide)

end CommandDocs

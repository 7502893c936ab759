import CommandDocs.Proofs.Batch.Placement
import CommandDocs.Proofs.CommandLine.Running
import CommandDocs.Proofs.Console.Showing

/-!
# What is reported about some pages

The pages of a command line end in a table with one row for each of them, and in a status that
tells whether all of them were written.  The texts of failures are escaped, names and paths are
not: a name or a path with a tag is not shown as it stands, or stops the report.
-/

namespace CommandDocs

open Console Console.Markup

namespace PageResult

/-- The path of a page or the text of a failure. -/
def detail (result : PageResult) : String :=
  match result.outcome with
  | .ok path => path
  | .error text => text

/-- The texts that a row is to show about a page. -/
def row (result : PageResult) : List (List Char) :=
  [result.command.toList, (CommandLine.pageStatus result).toList, result.detail.toList]

/-- What is known about a page has texts that a table shows as they stand. -/
def IsLiteral (result : PageResult) : Prop :=
  Markup.IsLiteral result.command.toList ∧
    match result.outcome with
    | .ok path => Markup.IsLiteral path.toList
    | .error text => IsLiteralEscaped text.toList

/-- What is known about a page has no tag that a table refuses. -/
def IsAccepted (result : PageResult) : Prop :=
  (∃ cell, render result.command.toList = .ok cell) ∧
    ∀ path, result.outcome = .ok path → ∃ cell, render path.toList = .ok cell

theorem IsLiteral.isAccepted {result : PageResult} (literal : result.IsLiteral) :
    result.IsAccepted := by
  refine ⟨exists_render_of_not_hasTag literal.1.untagged, fun path given => ?_⟩
  have detail := literal.2
  rw [given] at detail
  exact exists_render_of_not_hasTag detail.untagged

end PageResult

namespace CommandLine

open Files (Path)

variable {η : Type} {result : PageResult} {results : List PageResult}

def IsRowOf (result : PageResult) (row : List Marked) : Prop :=
  ∃ name detail, shown result.command = .ok name ∧ pageDetail result = .ok detail ∧
    row = [name, ⟨(pageStatus result).toList, []⟩, detail]

theorem shownLiteral_eq (text : String) : shownLiteral text = render (escape text.toList) := by
  rw [shownLiteral, shown, Run.literal, String.toList_ofList]

/-- Only a path can be refused: the text of a failure is escaped. -/
theorem exists_pageDetail_iff :
    (∃ detail, pageDetail result = .ok detail) ↔
      ∀ path, result.outcome = .ok path → ∃ cell, render path.toList = .ok cell := by
  obtain ⟨command, text | path⟩ := result
  · have found : ∃ detail, pageDetail ⟨command, .error text⟩ = .ok detail := by
      change ∃ detail, shownLiteral text = .ok detail
      rw [shownLiteral_eq]
      exact exists_render_escape text.toList
    exact iff_of_true found fun path given => by cases given
  · constructor
    · rintro found _ ⟨⟩
      exact found
    · exact fun found => found path rfl

theorem pageDetail_shows_iff {detail : Marked} (found : pageDetail result = .ok detail) :
    detail.text = result.detail.toList ↔
      match result.outcome with
      | .ok path => Markup.IsLiteral path.toList
      | .error text => IsLiteralEscaped text.toList := by
  obtain ⟨command, text | path⟩ := result
  · change shownLiteral text = .ok detail at found
    rw [shownLiteral_eq] at found
    exact (shows_iff_of_render found).symm.trans shows_escape_iff
  · exact (shows_iff_of_render found).symm.trans shows_self_iff

theorem exists_isRowOf_iff : (∃ row, IsRowOf result row) ↔ result.IsAccepted := by
  rw [PageResult.IsAccepted, ← exists_pageDetail_iff]
  constructor
  · rintro ⟨row, name, detail, named, detailed, _⟩
    exact ⟨⟨name, named⟩, detail, detailed⟩
  · rintro ⟨⟨name, named⟩, detail, detailed⟩
    exact ⟨_, name, detail, named, detailed, rfl⟩

/-- A row shows the texts about its page as they stand, or it does not. -/
theorem map_text_eq_row_iff {row : List Marked} (about : IsRowOf result row) :
    row.map Marked.text = result.row ↔ result.IsLiteral := by
  obtain ⟨name, detail, named, detailed, rfl⟩ := about
  have nameShown : name.text = result.command.toList ↔ Markup.IsLiteral result.command.toList :=
    (shows_iff_of_render named).symm.trans shows_self_iff
  rw [PageResult.IsLiteral, ← nameShown, ← pageDetail_shows_iff detailed]
  simp [PageResult.row]

section Table

def rowsOf (names : List Marked) (status : List (List Char)) (details : List Marked) :
    List (List Marked) :=
  (names.zip (status.zip details)).map fun (name, word, detail) => [name, ⟨word, []⟩, detail]

theorem forall₂_isRowOf_iff {rows : List (List Marked)} :
    List.Forall₂ IsRowOf results rows ↔
      ∃ names details,
        List.Forall₂ (fun result name => shown result.command = .ok name) results names ∧
          List.Forall₂ (fun result detail => pageDetail result = .ok detail) results details ∧
            rows = rowsOf names (results.map fun r => (pageStatus r).toList) details := by
  constructor
  · intro about
    induction about with
    | nil => exact ⟨[], [], .nil, .nil, rfl⟩
    | cons first _ ih =>
        obtain ⟨name, detail, named, detailed, rfl⟩ := first
        obtain ⟨names, details, allNamed, allDetailed, rfl⟩ := ih
        exact ⟨name :: names, detail :: details, .cons named allNamed, .cons detailed allDetailed,
          rfl⟩
  · rintro ⟨names, details, named, detailed, rfl⟩
    induction named generalizing details with
    | nil => exact .nil
    | cons first _ ih =>
        cases detailed with
        | cons firstDetail later => exact .cons ⟨_, _, first, firstDetail, rfl⟩ (ih _ later)

def tableOf (rows : List (List Marked)) : Table where
  title := "Command Pages".toList
  head := ["Command".toList, "Status".toList, "Output / Error".toList]
  rows

/-- The table has a row for each page, in order. -/
theorem resultTable_eq_ok_iff {table : Table} :
    resultTable results = .ok table ↔
      ∃ rows, List.Forall₂ IsRowOf results rows ∧ table = tableOf rows := by
  simp only [forall₂_isRowOf_iff]
  constructor
  · intro found
    obtain ⟨names, named, found⟩ := bind_eq_ok_iff.mp found
    obtain ⟨details, detailed, given⟩ := bind_eq_ok_iff.mp found
    cases given
    exact ⟨_, ⟨names, details, mapM_eq_ok_iff.mp named, mapM_eq_ok_iff.mp detailed, rfl⟩, rfl⟩
  · rintro ⟨_, ⟨names, details, named, detailed, rfl⟩, rfl⟩
    rw [resultTable, mapM_eq_ok_iff.mpr named, mapM_eq_ok_iff.mpr detailed]
    rfl

theorem exists_resultTable_iff :
    (∃ table, resultTable results = .ok table) ↔ ∀ result ∈ results, result.IsAccepted := by
  simp only [resultTable_eq_ok_iff, ← exists_isRowOf_iff]
  constructor
  · rintro ⟨_, rows, about, rfl⟩
    induction about with
    | nil => exact fun _ member => by cases member
    | cons first _ ih => exact List.forall_mem_cons.mpr ⟨⟨_, first⟩, ih⟩
  · intro each
    have rows : ∃ rows, List.Forall₂ IsRowOf results rows := by
      induction results with
      | nil => exact ⟨[], .nil⟩
      | cons result rest ih =>
          obtain ⟨⟨row, first⟩, later⟩ := List.forall_mem_cons.mp each
          obtain ⟨rows, about⟩ := ih later
          exact ⟨row :: rows, .cons first about⟩
    obtain ⟨rows, about⟩ := rows
    exact ⟨tableOf rows, rows, about, rfl⟩

theorem map_text_rows_iff {rows : List (List Marked)} (about : List.Forall₂ IsRowOf results rows) :
    rows.map (·.map Marked.text) = results.map PageResult.row ↔
      ∀ result ∈ results, result.IsLiteral := by
  induction about with
  | nil => simp
  | cons first _ ih =>
      rw [List.map_cons, List.map_cons, List.cons.injEq, List.forall_mem_cons, ih,
        map_text_eq_row_iff first]

end Table

namespace Run

/-- What comes before the pages: the host is started, and both templates are read. -/
def prepare (launcher : Launcher η) (settings : Settings) (header footer : Option Path) :
    Run η Frame := do
  startHost launcher settings
  return ⟨← template settings .header header, ← template settings .footer footer⟩

def pageBatch (settings : Settings) (exclude : List String) (failFast : Bool) : Batch where
  exclude := settings.exclude ++ exclude
  failFast
  width := settings.helpWidth

/-- Prints what became of some pages. -/
def report (results : List PageResult) : Run η Unit := do
  print (← ofMarkup (resultTable results)).text
  if !results.all (·.written) then exit 1

variable {launcher : Launcher η} {settings : Settings} {name : String} {output : Path}
  {header footer : Option Path} {exclude : List String} {failFast : Bool} {t u : Terminal η}
  {frame : Frame} {w : Workspace η}

theorem doPages_eq :
    doPages launcher settings name output header footer exclude failFast =
      prepare launcher settings header footer >>= fun frame =>
        workWithBar ("Resolving " ++ name ++ "...")
          (renderPages launcher.host (pageBatch settings exclude failFast) frame output name) >>=
            report := by
  simp only [doPages, prepare, bind_assoc, pure_bind]
  rfl

theorem output_of_run_template {which : Settings.Template} {file : Option Path} {text : String}
    (read : (template settings which file).run t = (.ok text, u)) : u.output = t.output := by
  cases file with
  | none => exact (run_of_run_work read).2
  | some p => exact (run_of_run_work read).2

theorem output_of_run_prepare
    (prepared : (prepare launcher settings header footer).run t = (.ok frame, u)) :
    u.output = t.output := by
  obtain ⟨_, started, began, prepared⟩ := exists_of_run_bind_ok prepared
  obtain ⟨above, middle, headed, prepared⟩ := exists_of_run_bind_ok prepared
  obtain ⟨below, after, footed, given⟩ := exists_of_run_bind_ok prepared
  cases began
  cases given
  rw [output_of_run_template footed, output_of_run_template headed]

/-- Pages that are done are reported, and nothing has been printed before. -/
theorem run_doPages
    (prepared : (prepare launcher settings header footer).run t = (.ok frame, u))
    (rendered : (renderPages launcher.host (pageBatch settings exclude failFast) frame output
      name).run u.work = (.ok results, w)) :
    ∃ after : Terminal η,
      (doPages launcher settings name output header footer exclude failFast).run t =
        (report results).run after ∧ after.output = t.output := by
  have silent := output_of_run_prepare prepared
  rw [doPages_eq]
  exact ⟨_, (run_bind_of_ok prepared).trans (run_bind_of_ok (run_workWithBar_of_ok rendered)),
    silent⟩

theorem run_report_of_ok {table : Table} (found : resultTable results = .ok table) :
    (report results).run t =
      (if results.all (·.written) then .ok () else .error (.exit 1),
        { t with output := t.output ++ table.text }) := by
  rw [report, found, run_bind_of_ok (run_ofMarkup_ok table t), run_bind_of_ok (run_print _ t)]
  cases results.all (·.written) <;> rfl

theorem run_report_of_error {fault : Fault} (refused : resultTable results = .error fault) :
    ∃ stop : Stop, (report results).run t = (.error stop, t) ∧
      (stop = .markup fault ∨ ∃ number, stop = .failure (.number number)) := by
  obtain ⟨stop, stopped, why⟩ := exists_run_ofMarkup_error fault t
  exact ⟨stop, by rw [report, refused]; exact run_bind_of_error stopped, why⟩

end Run

/-- A run that reports what became of some pages: after what was printed before it, a table with
one row for each page, in order; and a status that tells whether all of them were written. -/
structure Reports (results : List PageResult) (before : String) (answer : Answer) : Prop where
  printed : ∃ table, resultTable results = .ok table ∧
    List.Forall₂ IsRowOf results table.rows ∧ answer.output = before ++ table.text
  ended : answer.broken = none
  status : answer.status = 0 ↔ ∀ result ∈ results, result.written = true

/-- A report in which every cell reads as the text that it is about. -/
structure ReportsLiterally (results : List PageResult) (before : String) (answer : Answer) : Prop
    extends Reports results before answer where
  literal : ∀ table, resultTable results = .ok table →
    table.rows.map (·.map Marked.text) = results.map PageResult.row

/-- A run that breaks off with nothing printed. -/
structure BreaksOff (before : String) (answer : Answer) : Prop where
  silent : answer.output = before
  broken : answer.broken ≠ none
  status : answer.status = 1

theorem reports_answerOf {t : Terminal η} (accepted : ∀ result ∈ results, result.IsAccepted) :
    Reports results t.output
      (answerOf ((Run.report results).run t).1 ((Run.report results).run t).2) := by
  obtain ⟨table, found⟩ := exists_resultTable_iff.mpr accepted
  obtain ⟨rows, about, rfl⟩ := resultTable_eq_ok_iff.mp found
  rw [Run.run_report_of_ok found]
  cases all : results.all (·.written) with
  | true =>
      refine ⟨⟨_, found, about, rfl⟩, rfl, iff_of_true rfl ?_⟩
      exact List.all_eq_true.mp all
  | false =>
      refine ⟨⟨_, found, about, rfl⟩, rfl, iff_of_false Nat.one_ne_zero fun each => ?_⟩
      rw [List.all_eq_true.mpr each] at all
      cases all

theorem breaksOff_answerOf {t : Terminal η} (refused : ¬∀ result ∈ results, result.IsAccepted) :
    BreaksOff t.output
      (answerOf ((Run.report results).run t).1 ((Run.report results).run t).2) := by
  rw [← exists_resultTable_iff] at refused
  cases found : resultTable results with
  | ok table => exact absurd ⟨table, found⟩ refused
  | error fault =>
      obtain ⟨stop, stopped, why⟩ := Run.run_report_of_error (t := t) found
      rw [stopped]
      rcases why with rfl | ⟨number, rfl⟩ <;> exact ⟨rfl, Option.some_ne_none _, rfl⟩

/-- **Pages that are done are reported literally just when every name, every path and every text of
a failure is literal.** Any other report still has one row for each page and a true status, unless
a name or a path has a tag that is refused; then nothing is printed. -/
theorem doPages_reports {launcher : Launcher η} {settings : Settings} {name : String}
    {output : Path} {header footer : Option Path} {exclude : List String} {failFast : Bool}
    {t u : Terminal η} {frame : Frame} {w : Workspace η}
    (prepared : (Run.prepare launcher settings header footer).run t = (.ok frame, u))
    (rendered : (renderPages launcher.host (Run.pageBatch settings exclude failFast) frame output
      name).run u.work = (.ok results, w)) :
    let run := (Run.doPages launcher settings name output header footer exclude failFast).run t
    let answer := answerOf run.1 run.2
    (ReportsLiterally results t.output answer ↔ ∀ result ∈ results, result.IsLiteral) ∧
      ((∀ result ∈ results, result.IsAccepted) → Reports results t.output answer) ∧
        ((¬∀ result ∈ results, result.IsAccepted) → BreaksOff t.output answer) := by
  obtain ⟨after, ran, silent⟩ := Run.run_doPages prepared rendered
  intro run answer
  have shape : answer =
      answerOf ((Run.report results).run after).1 ((Run.report results).run after).2 := by
    simp only [answer, run, ran]
  rw [shape, ← silent]
  refine ⟨?_, reports_answerOf, breaksOff_answerOf⟩
  constructor
  · rintro ⟨⟨⟨table, found, about, _⟩, _, _⟩, literal⟩
    exact (map_text_rows_iff about).mp (literal table found)
  · intro each
    refine ⟨reports_answerOf fun result member => (each result member).isAccepted, ?_⟩
    intro table found
    obtain ⟨rows, about, rfl⟩ := resultTable_eq_ok_iff.mp found
    exact (map_text_rows_iff about).mpr each

/-- A command without a text of help, and a directory for its page that has a tag in its name. -/
def tagged : Terminal Host.Catalogue where
  work := {
    store := ⟨[(["docs [draft]"], .directory)]⟩
    host := { help := [("Get-A", .text [])] } }

def recorder : Launcher Host.Catalogue :=
  ⟨Host.catalogue, fun _ _ host => host⟩

/-- The page is written below the directory. -/
theorem run_renderPages_tagged :
    ∃ w, (renderPages Host.catalogue (Run.pageBatch {} [] false) {} ⟨.here, ["docs [draft]"]⟩
      "Get-A").run tagged.work = (.ok [⟨"Get-A", .ok "docs [draft]/Get-A.html"⟩], w) := by
  obtain ⟨bytes, page, _⟩ := exists_page_upwards
  have there : tagged.work.store.isDirectory tagged.work.here ⟨.here, ["docs [draft]"]⟩ =
      .ok true :=
    Files.Store.isDirectory_eq_true_iff.mpr
      ⟨["docs [draft]"], Files.Store.locate_of_walk (by decide) (by decide) rfl, rfl⟩
  have resolved : (resolve Host.catalogue (Run.pageBatch {} [] false) "Get-A").run tagged.work =
      (.ok ["Get-A"],
        ((resolve Host.catalogue (Run.pageBatch {} [] false) "Get-A").run tagged.work).2) := rfl
  generalize found :
    ((resolve Host.catalogue (Run.pageBatch {} [] false) "Get-A").run tagged.work).2 = w₀
      at resolved
  have led : w₀.store.locate w₀.here (pagePath ⟨.here, ["docs [draft]"]⟩ "Get-A") =
      .ok ["docs [draft]", "Get-A.html"] := by
    rw [← found]
    exact Files.Store.locate_of_walk (by decide) (by decide) rfl
  have free : w₀.store.at? ["docs [draft]", "Get-A.html"] ≠ some .directory := by
    rw [← found]
    decide +kernel
  have fresh : w₀.Fresh := by
    rw [← found]
    exact fun file member => by cases member
  have answered : Temporary.page {} (w₀.made + 1)
      ((Batch.announced (Run.pageBatch {} [] false) 1 1 "Get-A" w₀).helpCall Host.catalogue 500
        "Get-A").1 = .ok bytes := by
    rw [← page, ← found]
    rfl
  obtain ⟨after, ran, _⟩ := run_renderPages_of_single there resolved fresh answered
    (Files.Store.write_eq_ok_iff.mpr ⟨_, led, free, rfl⟩)
  exact ⟨after, ran⟩

/-- The report about a page in a directory with a tag in its name does not show the path as it
stands. -/
theorem not_reportsLiterally_tagged :
    let run := (Run.doPages recorder {} "Get-A" ⟨.here, ["docs [draft]"]⟩ none none []
      false).run tagged
    ¬ReportsLiterally [⟨"Get-A", .ok "docs [draft]/Get-A.html"⟩] "" (answerOf run.1 run.2) := by
  obtain ⟨w, rendered⟩ := run_renderPages_tagged
  have prepared : (Run.prepare recorder {} none none).run tagged =
      (.ok {}, ((Run.prepare recorder {} none none).run tagged).2) := rfl
  intro run reported
  have path := ((doPages_reports prepared rendered).1.mp reported _ (List.mem_singleton_self _)).2
  exact path.untagged ⟨"docs ".toList, "draft".toList, "/Get-A.html".toList, rfl, 'd',
    "raft".toList, rfl, rfl, by decide, by decide⟩

end CommandLine

end CommandDocs

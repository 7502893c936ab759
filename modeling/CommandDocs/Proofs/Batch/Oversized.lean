import CommandDocs.Proofs.Batch.Resolving
import CommandDocs.Proofs.Files.Reached
import CommandDocs.Proofs.Help.Forms
import CommandDocs.Proofs.Help.Reading
import CommandDocs.Proofs.Text.Classes
import CommandDocs.Proofs.Text.Lines
import CommandDocs.Proofs.Text.Utf8

/-!
# What can stop a batch of pages

When all failures of the host are its own reports and every page can be written, a batch that goes
on after failures gives one result for each command, unless it comes to a help text with a number
of too many digits.  Such a number is not a failure of the command's own and ends the batch.
-/

namespace CommandDocs

open Files (Path Bytes)

variable {η : Type}

/-- The first oversized number in the help text that a host has left, if there is a text. -/
def oversizedIn (answer : Except Host.Fault Host.HelpFile) : Option Nat := do
  let bytes ← Host.helpBytes answer
  let text ← (Text.decodeDocument bytes).toOption
  Help.firstOversized? (Help.linesOf text)

theorem oversizedIn_eq (number : Nat) (answer : Except Host.Fault Host.HelpFile) :
    oversizedIn answer = (Temporary.helpText number answer).toOption.bind fun text =>
      Help.firstOversized? (Help.linesOf text) := by
  rw [Temporary.toOption_helpText, oversizedIn]
  cases Host.helpBytes answer <;> rfl

/-- A help text that cannot be had from an honest host is a failure of the command's own. -/
theorem Temporary.isPerCommand_of_helpText {number : Nat}
    {answer : Except Host.Fault Host.HelpFile} {failure : Failure}
    (honest : ∀ fault, answer = .error fault → fault.isHostError = true)
    (failed : helpText number answer = .error failure) : failure.isPerCommand = true := by
  have decoded {bytes : Bytes} (refused : helpTextOf (path number) (.ok bytes) = .error failure) :
      failure.isPerCommand = true := by
    unfold helpTextOf at refused
    dsimp only at refused
    split at refused
    · cases refused
    · cases refused
      rfl
  cases answer with
  | error fault =>
      cases failed
      exact honest fault rfl
  | ok file =>
      cases file with
      | untouched => exact decoded failed
      | written bytes => exact decoded failed
      | removed =>
          cases failed
          rfl

/-- The page of a command fails on the command's own account, or because of an oversized number. -/
theorem Temporary.page_eq_error {frame : Frame} {number : Nat}
    {answer : Except Host.Fault Host.HelpFile} {failure : Failure}
    (honest : ∀ fault, answer = .error fault → fault.isHostError = true)
    (pageless : page frame number answer = .error failure) :
    failure.isPerCommand = true ∧ oversizedIn answer = none ∨
      ∃ count, oversizedIn answer = some count ∧ failure = .number (.tooLong count) := by
  rw [oversizedIn_eq number]
  unfold page fields at pageless
  cases said : helpText number answer with
  | error found =>
      rw [said] at pageless
      cases pageless
      exact Or.inl ⟨isPerCommand_of_helpText honest said, rfl⟩
  | ok text =>
      rw [said] at pageless
      cases read : Help.extract text with
      | ok fields =>
          simp [bind, Except.bind, Except.map, Except.mapError, read] at pageless
      | error fault =>
          obtain ⟨count, large, rfl⟩ := Help.extract_eq_error_iff.mp read
          simp only [bind, Except.bind, Except.map, Except.mapError, read,
            Except.error.injEq] at pageless
          exact Or.inr ⟨count, large, pageless.symm⟩

/-- A page comes of a help text without oversized numbers. -/
theorem Temporary.oversizedIn_of_page {frame : Frame} {number : Nat}
    {answer : Except Host.Fault Host.HelpFile} {bytes : Bytes}
    (page : page frame number answer = .ok bytes) : oversizedIn answer = none := by
  rw [oversizedIn_eq number]
  unfold Temporary.page fields at page
  cases said : helpText number answer with
  | error found => rfl
  | ok text =>
      rw [said] at page
      cases large : Help.firstOversized? (Help.linesOf text) with
      | none => exact large
      | some count =>
          have read : Help.extract text = .error (.tooLong count) :=
            Help.extract_eq_error_iff.mpr ⟨count, large, rfl⟩
          simp [bind, Except.bind, Except.map, Except.mapError, read] at page

/-- A path at which a file can be written. -/
def Workspace.CanWrite (w : Workspace η) (p : Path) : Prop :=
  ∃ location, w.store.locate w.here p = .ok location ∧ w.store.at? location ≠ some .directory

theorem Workspace.CanWrite.write {settled : η → Prop} {w v : Workspace η} {p : Path}
    (free : w.CanWrite p) (onward : w.Onward settled v) (bytes : Bytes) :
    ∃ store, v.store.write v.here p bytes = .ok store := by
  obtain ⟨location, led, clear⟩ := free
  have written : w.store.write w.here p bytes = .ok (w.store.put location (.file bytes)) :=
    Files.Store.write_eq_ok_iff.mpr ⟨location, led, clear, rfl⟩
  obtain ⟨_, _, _, later⟩ := Files.Store.write_of_sameDirectories onward.directories written
  rw [onward.here]
  exact ⟨_, later⟩

/-- A batch that has gone as far as a command whose help text has an oversized number. -/
def ComesToOversized (host : Host η) (batch : Batch) (frame : Frame) (dir : Path)
    (commands : List String) (w : Workspace η) (count : Nat) : Prop :=
  ∃ done command others outcomes middle, commands = done ++ command :: others ∧
    Batch.Turns (PageTurn host batch frame dir commands.length) 1 done w outcomes middle ∧
    oversizedIn ((batch.announced commands.length (1 + done.length) command middle).helpCall host
      batch.width command).1 = some count

theorem Host.IsHonest.reports_helpCall {settled : η → Prop} {host : Host η}
    (honest : host.IsHonest settled) {v : Workspace η} (start : settled v.host) (width : Int)
    (command : String) (fault : Host.Fault)
    (failed : (v.helpCall host width command).1 = .error fault) : fault.isHostError = true :=
  honest.reports _ _ _ _ fault start failed

section Batch

variable {settled : η → Prop} {host : Host η} {batch : Batch} {frame : Frame} {dir : Path}
  {w v after : Workspace η} {total index : Nat} {commands : List String}
  {outcomes : List (Except Failure Path)}

theorem turns_of_pageTurns (keeps : host.Keeps settled) (onward : w.Onward settled v)
    (turns : Batch.Turns (PageTurn host batch frame dir total) index commands v outcomes after) :
    w.Onward settled after ∧
      Batch.Turns (batch.Turn (renderPage host batch.width frame dir) skipping total) index
        commands v outcomes after :=
  turns.mono (w.Onward settled) onward fun onward turn =>
    ⟨turn.onward keeps onward, turn_of_pageTurn onward.fresh turn⟩

theorem pageTurns_of_turns (keeps : host.Keeps settled) (onward : w.Onward settled v)
    (turns : Batch.Turns (batch.Turn (renderPage host batch.width frame dir) skipping total) index
      commands v outcomes after) :
    w.Onward settled after ∧
      Batch.Turns (PageTurn host batch frame dir total) index commands v outcomes after :=
  turns.mono (w.Onward settled) onward fun onward turn =>
    ⟨(pageTurn_of_turn onward.fresh turn).onward keeps onward, pageTurn_of_turn onward.fresh turn⟩

/-- A failure that stops a batch in which nothing else can is an oversized number. -/
theorem oversizedIn_of_stop (honest : host.IsHonest settled) (isolating : batch.failFast = false)
    (onward : w.Onward settled v) {command : String} {failure : Failure}
    (free : w.CanWrite (pagePath dir command))
    (failed : (renderPage host batch.width frame dir command).run
      (batch.announced total index command v) = (.error failure, after))
    (stops : batch.goesOn failure = false) :
    ∃ count, failure = .number (.tooLong count) ∧
      oversizedIn ((batch.announced total index command v).helpCall host batch.width command).1 =
        some count := by
  have ready := onward.fresh.announced batch total index command
  have reports := honest.reports_helpCall (v := batch.announced total index command v)
    onward.settled batch.width command
  cases page : Temporary.page frame (v.made + 1)
      ((batch.announced total index command v).helpCall host batch.width command).1 with
  | ok bytes =>
      obtain ⟨store, written⟩ := free.write onward bytes
      rw [run_renderPage_of_page ready page written] at failed
      cases failed
  | error found =>
      rw [run_renderPage_of_failure ready page] at failed
      cases failed
      rcases Temporary.page_eq_error reports page with
        ⟨own, small⟩ | ⟨count, large, same⟩
      · rw [Batch.goesOn, own, isolating] at stops
        cases stops
      · exact ⟨count, same, large⟩

theorem stop_of_oversizedIn (honest : host.IsHonest settled) (onward : w.Onward settled v)
    {command : String} {count : Nat}
    (large : oversizedIn ((batch.announced total index command v).helpCall host batch.width
      command).1 = some count) :
    ∃ after, (renderPage host batch.width frame dir command).run
        (batch.announced total index command v) = (.error (.number (.tooLong count)), after) ∧
      batch.goesOn (.number (.tooLong count)) = false := by
  have ready := onward.fresh.announced batch total index command
  have reports := honest.reports_helpCall (v := batch.announced total index command v)
    onward.settled batch.width command
  cases page : Temporary.page frame (v.made + 1)
      ((batch.announced total index command v).helpCall host batch.width command).1 with
  | ok bytes =>
      rw [Temporary.oversizedIn_of_page page] at large
      cases large
  | error found =>
      rcases Temporary.page_eq_error reports page with
        ⟨own, small⟩ | ⟨other, found, rfl⟩
      · rw [small] at large
        cases large
      · rw [found] at large
        cases large
        exact ⟨_, run_renderPage_of_failure ready page, rfl⟩

theorem map_command_pageResults (commands : List String) (outcomes : List (Except Failure Path))
    (long : outcomes.length = commands.length) :
    (pageResults (commands.zip outcomes)).map (·.command) = commands := by
  rw [pageResults, List.map_map]
  exact List.map_fst_zip (Nat.le_of_eq long.symm)

end Batch

section Whole

variable {settled : η → Prop} {host : Host η} (honest : host.IsHonest settled) {batch : Batch}
  (frame : Frame) {dir : Path} {name : String} {w w₀ : Workspace η} {commands : List String}
  (fresh : w.Fresh) (start : settled w.host)
  (there : w.store.isDirectory w.here dir = .ok true)
  (resolved : (resolve host batch name).run w = (.ok commands, w₀))
include honest fresh start there resolved

theorem run_renderPages_of_comesTo {count : Nat}
    (comes : ComesToOversized host batch frame dir commands w₀ count) :
    ∃ after, (renderPages host batch frame dir name).run w =
      (.error (.number (.tooLong count)), after) := by
  have onward := (onward_of_resolved honest.keeps fresh start resolved).1
  obtain ⟨done, command, others, outcomes, middle, same, turns, large⟩ := comes
  obtain ⟨ends, turned⟩ := turns_of_pageTurns honest.keeps onward turns
  obtain ⟨after, failed, stops⟩ := stop_of_oversizedIn honest ends large
  have stopped := Batch.run_eq_error_of_stop turned failed stops others
  rw [← same] at stopped
  refine ⟨after, ?_⟩
  rw [run_renderPages_of_resolved there resolved, stopped]

/-- A batch of pages that goes on after failures, and whose pages can be written, gives one result
for each command or comes to an oversized number. -/
theorem returns_or_comesTo (isolating : batch.failFast = false)
    (free : ∀ command ∈ commands, w.CanWrite (pagePath dir command)) :
    (∃ results after, (renderPages host batch frame dir name).run w = (.ok results, after) ∧
      results.map (·.command) = commands) ∨
    ∃ count, ComesToOversized host batch frame dir commands w₀ count := by
  have onward := (onward_of_resolved honest.keeps fresh start resolved).1
  cases ran : (batch.run (renderPage host batch.width frame dir) skipping commands.length 1
      commands).run w₀ with
  | mk outcome after =>
      cases outcome with
      | ok found =>
          obtain ⟨outcomes, rfl, turns⟩ := Batch.turns_of_run_eq_ok ran
          have whole : (renderPages host batch frame dir name).run w = _ :=
            run_renderPages_of_resolved there resolved
          rw [ran] at whole
          exact Or.inl ⟨_, _, whole, map_command_pageResults commands outcomes turns.length_eq⟩
      | error failure =>
          obtain ⟨done, command, others, outcomes, middle, same, turns, failed, stops⟩ :=
            Batch.stop_of_run_eq_error ran
          obtain ⟨ends, turned⟩ := pageTurns_of_turns honest.keeps onward turns
          have member : command ∈ commands := by simp [same]
          obtain ⟨count, rfl, large⟩ :=
            oversizedIn_of_stop honest isolating ends (free command member) failed stops
          exact Or.inr ⟨count, done, command, others, outcomes, middle, same, turned, large⟩

end Whole

/-- **Only an oversized number can stop a batch of pages.**  Let the host's failures be its own
reports, and let the directory be there with each page writable.  Then, once its commands are
found, a batch that goes on after failures gives one result for each of them exactly when it comes
to no help text with an oversized number; otherwise it fails with the number it comes to. -/
theorem renderPages_returns_iff {settled : η → Prop} {host : Host η}
    (honest : host.IsHonest settled) {batch : Batch} (isolating : batch.failFast = false)
    (frame : Frame) {dir : Path} {name : String} {w w₀ : Workspace η} {commands : List String}
    (fresh : w.Fresh) (start : settled w.host)
    (there : w.store.isDirectory w.here dir = .ok true)
    (resolved : (resolve host batch name).run w = (.ok commands, w₀))
    (free : ∀ command ∈ commands, w.CanWrite (pagePath dir command)) :
    ((∃ results after, (renderPages host batch frame dir name).run w = (.ok results, after) ∧
        results.map (·.command) = commands) ↔
      ∀ count, ¬ComesToOversized host batch frame dir commands w₀ count) ∧
    ∀ count, (∃ after, (renderPages host batch frame dir name).run w =
        (.error (.number (.tooLong count)), after)) ↔
      ComesToOversized host batch frame dir commands w₀ count := by
  have either := returns_or_comesTo honest frame fresh start there resolved isolating free
  have stops (count : Nat) (comes : ComesToOversized host batch frame dir commands w₀ count) :=
    run_renderPages_of_comesTo honest frame fresh start there resolved comes
  refine ⟨⟨?_, fun never => ?_⟩, fun count => ⟨?_, stops count⟩⟩
  · rintro ⟨results, after, ran, same⟩ count comes
    obtain ⟨stopped, failed⟩ := stops count comes
    rw [ran] at failed
    cases failed
  · rcases either with returned | ⟨count, comes⟩
    · exact returned
    · exact absurd comes (never count)
  · rintro ⟨after, ran⟩
    rcases either with ⟨results, last, returned, same⟩ | ⟨other, comes⟩
    · rw [ran] at returned
      cases returned
    · obtain ⟨stopped, failed⟩ := stops other comes
      rw [ran] at failed
      cases failed
      exact comes

/-! ## A text that stops a batch -/

/-- The shortest anchor with given digits. -/
def shortAnchor (digits : List Char) : Help.Line :=
  "- EXAMPLE ".toList ++ digits

theorem exampleDigits?_shortAnchor {digits : List Char} (nonempty : digits ≠ [])
    (decimal : ∀ c ∈ digits, Text.isDecimal c = true) :
    Help.Layout.exampleDigits? (shortAnchor digits) = some digits := by
  have line : shortAnchor digits =
      [] ++ (['-'] ++ ([' '] ++ ("EXAMPLE".toList ++ ([' '] ++ (digits ++ []))))) := by
    rw [List.append_nil]
    rfl
  have rule : ∀ c ∈ ['-'], c = '-' := fun c member => List.mem_singleton.mp member
  have ends : ∀ c ∈ ([] : Help.Line).head?, Text.isDecimal c = false := by simp
  exact Help.Layout.exampleDigits?_eq_some_iff.mpr
    ⟨nonempty, decimal, [], ['-'], [' '], [' '], [], rfl, List.cons_ne_nil _ _, rule, rfl,
      ⟨List.cons_ne_nil _ _, rfl⟩, ends, line⟩

/-- Too many digits in an anchor that is ended by a line feed are an oversized number. -/
theorem firstOversized?_shortAnchor {digits : List Char}
    (decimal : ∀ c ∈ digits, Text.isDecimal c = true)
    (large : Text.digitLimit < digits.length) :
    Help.firstOversized? (Help.linesOf (String.ofList (shortAnchor digits ++ ['\n']))) =
      some digits.length := by
  have nonempty : digits ≠ [] :=
    List.ne_nil_of_length_pos (Nat.lt_of_le_of_lt (Nat.zero_le _) large)
  have free (c : Char) (other : Text.isDecimal c = false) (apart : c ∉ "- EXAMPLE ".toList) :
      c ∉ shortAnchor digits := by
    intro member
    rcases List.mem_append.mp member with fixed | digit
    · exact apart fixed
    · rw [decimal c digit] at other
      cases other
  have unbroken : '\r' ∉ shortAnchor digits ++ ['\n'] := by
    simpa using free '\r' (by decide) (by decide)
  have lines : Help.linesOf (String.ofList (shortAnchor digits ++ ['\n'])) =
      [shortAnchor digits, []] := by
    rw [Help.linesOf, String.toList_ofList, Text.unifyBreaks_of_not_mem unbroken]
    exact Text.splitAt_append_cons (free '\n' (by decide) (by decide)) []
  have counted : Help.oversized? (shortAnchor digits) = some digits.length :=
    Help.oversized?_eq_some_iff.mpr
      ⟨digits, exampleDigits?_shortAnchor nonempty decimal, large, rfl⟩
  rw [lines, Help.firstOversized?]
  simp [counted]

theorem oversizedIn_shortAnchor {digits : List Char}
    (decimal : ∀ c ∈ digits, Text.isDecimal c = true)
    (large : Text.digitLimit < digits.length) :
    oversizedIn (.ok (.written (Text.encodeText (String.ofList (shortAnchor digits ++ ['\n']))))) =
      some digits.length := by
  have shape : shortAnchor digits ++ ['\n'] = '-' :: (" EXAMPLE ".toList ++ digits ++ ['\n']) :=
    rfl
  have text : Text.decodeDocument (Text.encodeText (String.ofList (shortAnchor digits ++ ['\n']))) =
      .ok (String.ofList (shortAnchor digits ++ ['\n'])) := by
    rw [shape]
    exact Text.decodeDocument_encodeText (by decide) _
  rw [← firstOversized?_shortAnchor decimal large]
  simp only [oversizedIn, Host.helpBytes, bind, Option.bind_some, text, Except.toOption]

def longDigits : List Char :=
  List.replicate (Text.digitLimit + 1) '1'

/-- A module with one command and a directory for its page. -/
def oneCommand (help : Bytes) : Workspace Host.Catalogue where
  store := ⟨[(["out"], .directory)]⟩
  host := { modules := [("Tools", ["Get-A"])], help := [("Get-A", .text help)] }

theorem isHonest_oneCommand (help : Bytes) :
    Host.catalogue.IsHonest fun c => c.help = (oneCommand help).host.help ∧ c.down = none := by
  refine Host.isHonest_catalogue fun command message crashes => ?_
  simp only [oneCommand, List.lookup_cons, List.lookup_nil] at crashes
  split at crashes <;> cases crashes

theorem canWrite_oneCommand (help : Bytes) :
    ∀ command ∈ ["Get-A"], (oneCommand help).CanWrite (pagePath ⟨.here, ["out"]⟩ command) := by
  intro command member
  rw [List.mem_singleton.mp member]
  have vacant : (oneCommand help).store.at? ["out", "Get-A.html"] = none := rfl
  exact ⟨["out", "Get-A.html"], Files.Store.locate_of_walk (by decide) (by decide) rfl,
    by simp [vacant]⟩

/-- With one digit too many the batch fails, though the directory is there, the page can be
written, and the host has written a help text that can be decoded. -/
theorem run_renderPages_longDigits :
    ∃ after, (renderPages Host.catalogue {} {} ⟨.here, ["out"]⟩ "Tools").run
      (oneCommand (Text.encodeText (String.ofList (shortAnchor longDigits ++ ['\n'])))) =
        (.error (.number (.tooLong (Text.digitLimit + 1))), after) := by
  have decimal : ∀ c ∈ longDigits, Text.isDecimal c = true := by
    intro c member
    rw [(List.mem_replicate.mp member).2]
    decide
  have long : longDigits.length = Text.digitLimit + 1 := List.length_replicate
  have large := oversizedIn_shortAnchor decimal (by rw [long]; exact Nat.lt_succ_self _)
  rw [long] at large
  generalize Text.encodeText (String.ofList (shortAnchor longDigits ++ ['\n'])) = help at large ⊢
  have fresh : (oneCommand help).Fresh := fun file member => by cases member
  have there : (oneCommand help).store.isDirectory (oneCommand help).here ⟨.here, ["out"]⟩ =
      .ok true :=
    Files.Store.isDirectory_eq_true_iff.mpr
      ⟨["out"], Files.Store.locate_of_walk (by decide) (by decide) rfl, rfl⟩
  refine ((renderPages_returns_iff (isHonest_oneCommand help) rfl {} fresh ⟨rfl, rfl⟩ there rfl
    (canWrite_oneCommand help)).2 _).mpr ?_
  refine ⟨[], "Get-A", [], [], _, rfl, .done, ?_⟩
  exact large

end CommandDocs

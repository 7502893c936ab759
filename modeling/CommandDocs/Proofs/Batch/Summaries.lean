import CommandDocs.Proofs.Batch.FailFast
import CommandDocs.Proofs.Host.Listings
import CommandDocs.Proofs.Page.Listing
import CommandDocs.Proofs.Workspace.Writers

/-!
# Written summaries

A summary that has been written lists the commands of its module whose help can be fetched and
decoded, and nothing else.
-/

namespace CommandDocs

open Files (Path)
open Help (IsFlat)

variable {η : Type}

/-! ## Hosts that list plain names -/

/-- A host that lists names without line feeds, as long as it is settled. -/
structure Host.ListsFlat (host : Host η) (settled : η → Prop) : Prop where
  keeps : host.Keeps settled
  flat : ∀ module (talk : Talk η) listing, settled talk.state →
    ((host.moduleCommands module).run talk).1 = .ok listing → ∀ name ∈ listing, IsFlat name

/-- Whatever its processes print, the PowerShell host lists plain names. -/
theorem Host.listsFlat_powerShell {σ : Type} (runner : Launch → σ → Outcome × σ) :
    (powerShell runner).ListsFlat fun _ => True where
  keeps := ⟨fun _ _ _ => trivial, fun _ _ _ => trivial, fun _ _ _ => trivial,
    fun _ _ _ _ _ => trivial⟩
  flat module talk listing _ listed := by
    rw [run_moduleCommands] at listed
    cases answer : ((run runner (.moduleCommands module)).run talk).1 with
    | error fault =>
        rw [answer] at listed
        cases listed
    | ok printed =>
        rw [answer] at listed
        obtain rfl := Except.ok.inj listed
        intro name member feed
        exact absurd (isBreak_of_mem_namesIn member feed) (by decide)

theorem Host.listsFlat_catalogue (modules : List (String × List String))
    (help : List (String × HelpEntry)) (flat : ∀ listed ∈ modules, ∀ name ∈ listed.2, IsFlat name) :
    catalogue.ListsFlat (fun c => c.modules = modules ∧ c.help = help ∧ c.down = none) where
  keeps := (repeats_catalogue modules help).answers.keeps
  flat module talk listing start listed := by
    have replied := (repeats_catalogue modules help).moduleCommands module talk start
    obtain rfl : (modules.lookup module).getD [] = listing :=
      Except.ok.inj (replied.symm.trans listed)
    intro name member
    cases found : modules.lookup module with
    | none =>
        rw [found] at member
        cases member
    | some names =>
        rw [found] at member
        obtain ⟨before, after, whole, _⟩ := List.lookup_eq_some_iff.mp found
        exact flat (module, names) (by simp [whole]) name member

/-! ## Entries -/

/-- The turn of a command in a summary: it is listed when its help text can be fetched and decoded,
and left out with a warning when it cannot. -/
inductive SummaryTurn (host : Host η) (batch : Batch) (module : String) (total : Nat) :
    Nat → String → Workspace η → Except Failure String → Workspace η → Prop
  | listed {index : Nat} {command : String} {w : Workspace η} {text : String}
      (said : Host.helpText? (w.helpCall host batch.width command).1 = some text) :
      SummaryTurn host batch module total index command w (.ok text)
        ((batch.announced total index command w).fetched host batch.width command)
  | leftOut {index : Nat} {command : String} {w : Workspace η} {failure : Failure}
      (silent : Host.helpText? (w.helpCall host batch.width command).1 = none)
      (failed : Temporary.helpText (w.made + 1) (w.helpCall host batch.width command).1 =
        .error failure)
      (goes : batch.goesOn failure = true) :
      SummaryTurn host batch module total index command w (.error failure)
        (((batch.announced total index command w).fetched host batch.width command).warned
          (leavingOut module command failure))

/-- The entries of a module, as the host tells them from a workspace on: it knows the module, lists
commands, and is asked for the help of each one that is not excluded; the entries are those of the
commands whose help texts can be fetched and decoded, in order and with repetitions. -/
inductive Collects (host : Host η) (batch : Batch) (module : String) (w : Workspace η) :
    List Summary.Entry → Prop
  | mk {listing : List String} {first second : Host.Talk η}
      {outcomes : List (Except Failure String)} {after : Workspace η}
      (known : (host.moduleExists module).run ⟨w.host, w.log⟩ = (.ok true, first))
      (listed : (host.moduleCommands module).run first = (.ok listing, second))
      (turns : Batch.Turns (SummaryTurn host batch module (batch.keep listing).length) 1
        (batch.keep listing)
        (w.talked [.moduleExists module, .moduleCommands module] second) outcomes after) :
      Collects host batch module w (summaryEntries ((batch.keep listing).zip outcomes))

theorem summaryTurn_of_turn {host : Host η} {batch : Batch} {module : String} {total index : Nat}
    {command : String} {w after : Workspace η} {outcome : Except Failure String} (fresh : w.Fresh)
    (turn : batch.Turn (fetchHelp host batch.width) (leavingOut module) total index command w
      outcome after) :
    after.Fresh ∧ SummaryTurn host batch module total index command w outcome after := by
  have ready := fresh.announced batch total index command
  have fetched := run_fetchHelp ready host batch.width command
  have said := Temporary.toOption_helpText (w.made + 1)
    (w.helpCall host batch.width command).1
  have later := ready.fetched host batch.width command
  cases turn with
  | kept ran =>
      obtain ⟨same, rfl⟩ := Prod.mk.inj (fetched.symm.trans ran)
      refine ⟨later, .listed (said.symm.trans ?_)⟩
      exact congrArg Except.toOption same
  | skipped ran goes =>
      obtain ⟨same, rfl⟩ := Prod.mk.inj (fetched.symm.trans ran)
      refine ⟨later, .leftOut (said.symm.trans ?_) same goes⟩
      exact congrArg Except.toOption same

/-- Collecting entries gives what the host tells. -/
theorem collects_of_run_ok {host : Host η} {batch : Batch} {module : String}
    {entries : List Summary.Entry} {w after : Workspace η} (fresh : w.Fresh)
    (collected : (collect host batch module).run w = (.ok entries, after)) :
    Collects host batch module w entries := by
  unfold collect at collected
  obtain ⟨isModule, w₁, asked, collected⟩ := exists_of_run_bind_ok collected
  obtain ⟨first, known, rfl⟩ := Act.exists_talk_of_run_ask_ok asked
  cases isModule with
  | false => cases collected
  | true =>
      rw [if_pos rfl] at collected
      obtain ⟨listing, w₂, asked, collected⟩ := exists_of_run_bind_ok collected
      obtain ⟨second, listed, rfl⟩ := Act.exists_talk_of_run_ask_ok asked
      obtain ⟨results, last, turned, given⟩ := exists_of_run_bind_ok collected
      obtain ⟨outcomes, rfl, turns⟩ := Batch.turns_of_run_eq_ok turned
      cases given
      have ready := fresh.talked [.moduleExists module, .moduleCommands module] second
      rw [Workspace.told, Workspace.told, Workspace.talked_talked] at turns
      exact .mk known listed (turns.mono Workspace.Fresh ready summaryTurn_of_turn).2

theorem isFlat_extractSynopsis (text : String) : IsFlat (Help.extractSynopsis text) :=
  Help.isFlat_scalar "SYNOPSIS" fun _ member => Help.not_mem_of_mem_linesOf member

theorem isFlat_of_mem_summaryEntries {commands : List String}
    (flat : ∀ command ∈ commands, IsFlat command) (outcomes : List (Except Failure String))
    {e : Summary.Entry} (member : e ∈ summaryEntries (commands.zip outcomes)) :
    IsFlat e.name ∧ IsFlat e.synopsis := by
  obtain ⟨⟨command, outcome⟩, paired, given⟩ := List.mem_filterMap.mp member
  cases outcome with
  | error failure => cases given
  | ok text =>
      cases given
      exact ⟨flat command (List.of_mem_zip paired).1, isFlat_extractSynopsis text⟩

theorem Collects.isFlat {settled : η → Prop} {host : Host η} (plain : host.ListsFlat settled)
    {batch : Batch} {module : String} {w : Workspace η} (start : settled w.host)
    {entries : List Summary.Entry} (collects : Collects host batch module w entries) :
    ∀ e ∈ entries, IsFlat e.name ∧ IsFlat e.synopsis := by
  cases collects with
  | @mk listing first second outcomes after known listed turns =>
      have kept := plain.keeps.moduleExists module ⟨w.host, w.log⟩ start
      rw [known] at kept
      have flat := plain.flat module first listing kept (by rw [listed])
      exact fun e => isFlat_of_mem_summaryEntries
        (fun command member => flat command (List.mem_of_mem_filter member)) outcomes

/-! ## Pages -/

/-- A workspace in which a file lists some entries. -/
def Workspace.Shows (w : Workspace η) (p : Path) (style : Summary.Style) (module : String)
    (flagged : List String) (entries : List Summary.Entry) : Prop :=
  ∃ page, w.store.read w.here p = .ok (Text.encodeText page) ∧
    style.Lists module flagged entries page

section Writing

variable {settled : η → Prop} {host : Host η} (plain : host.ListsFlat settled) {batch : Batch}
  {dir : Path} {module : String} {style : Summary.Style} (plainStyle : style.IsPlain)
  (flat : IsFlat module) {w after : Workspace η} (fresh : w.Fresh) (start : settled w.host)
include plain plainStyle flat fresh start

/-- A summary that has been written in a plain style shows the entries that are collected. -/
theorem shows_of_run_writeSummary {fileName : String} {flagged : List String} {p : Path}
    {render : List Summary.Entry → String}
    (styled : ∀ entries, render entries =
      Summary.joinLines (style.lines module entries flagged))
    (wrote : (writeSummary host batch dir fileName module render).run w = (.ok p, after)) :
    ∃ entries, ((collect host batch module).run w).1 = .ok entries ∧
      Collects host batch module w entries ∧ after.Shows p style module flagged entries := by
  obtain ⟨text, ⟨_, entries, collected, rfl, rfl⟩, stored⟩ :=
    (allOrNothing_writeSummary host batch dir fileName module render).wrote w p after wrote
  have collects := collects_of_run_ok fresh (Prod.ext collected rfl)
  refine ⟨entries, collected, collects, render entries, stored.stored, ?_⟩
  rw [styled]
  exact plainStyle.lists flat (collects.isFlat plain start) flagged

end Writing

/-- When the answers of a host depend on the questions alone, the entries do so too. -/
theorem entries_of_run_collect_ok {settled : η → Prop} {host : Host η} {replies : Host.Replies}
    (repeats : host.Repeats settled replies) {batch : Batch} {module : String}
    {entries : List Summary.Entry} {w : Workspace η} (fresh : w.Fresh) (start : settled w.host)
    (collected : ((collect host batch module).run w).1 = .ok entries) :
    ∃ listing, replies.moduleCommands module = .ok listing ∧
      entries = (batch.keep listing).filterMap (entryOf? replies.help batch.width) := by
  obtain ⟨listing, outcomes, last, talk, listed, settledTalk, turns, rfl, _⟩ :=
    turns_of_run_collect_ok repeats start (Prod.ext collected rfl)
  have ready := fresh.talked [.moduleExists module, .moduleCommands module] talk
  have said := (fetched_of_turns repeats.answers ready settledTalk turns).1
  exact ⟨listing, listed, summaryEntries_eq said⟩

/-- **Summaries list exactly the commands that can be read.**  Let the host list plain names, and
let neither the module nor the address hold a line feed.  A summary that has been written, in HTML
or in Markdown, shows the entries that the host tells: between its head and its foot there is one
item for each of them, in order and with repetitions, with the link to the name, the synopsis at the
end, and the marker after the bullet if and only if the name is flagged; nothing else after the head
is an item; and the head gives the number of the items.  Both summaries of the same module show the
same entries, when they are written from the same workspace or the answers of the host depend on
the questions alone. -/
theorem summaries_list_readable {settled : η → Prop} {host : Host η}
    (plain : host.ListsFlat settled) {batch : Batch} {dir : Path} {module address : String}
    (flat : IsFlat module) (flatAddress : IsFlat address) (flagged : List String)
    {w : Workspace η} (fresh : w.Fresh) (start : settled w.host) :
    (∀ fileName p after,
      (writeHtml host batch dir fileName module flagged).run w = (.ok p, after) →
        ∃ entries, Collects host batch module w entries ∧
          after.Shows p .html module flagged entries) ∧
    (∀ fileName p after,
      (writeMarkdown host batch dir fileName module address flagged).run w = (.ok p, after) →
        ∃ entries, Collects host batch module w entries ∧
          after.Shows p (.markdown address) module flagged entries) ∧
    ∀ v : Workspace η, v.Fresh → settled v.host →
      (v = w ∨ ∃ replies, host.Repeats settled replies) →
        ∀ htmlName markdownName p q after later,
          (writeHtml host batch dir htmlName module flagged).run w = (.ok p, after) →
            (writeMarkdown host batch dir markdownName module address flagged).run v =
                (.ok q, later) →
              ∃ entries, Collects host batch module w entries ∧
                after.Shows p .html module flagged entries ∧
                later.Shows q (.markdown address) module flagged entries := by
  have html {fileName p after}
      (wrote : (writeHtml host batch dir fileName module flagged).run w = (.ok p, after)) :=
    shows_of_run_writeSummary plain Summary.Style.isPlain_html flat fresh start
      (fun entries => Summary.Style.renderHtml_eq module entries flagged) wrote
  have markdown {v : Workspace η} (fresh : v.Fresh) (start : settled v.host) {fileName p after}
      (wrote : (writeMarkdown host batch dir fileName module address flagged).run v =
        (.ok p, after)) :=
    shows_of_run_writeSummary plain (Summary.Style.isPlain_markdown flatAddress) flat fresh start
      (fun entries => Summary.Style.renderMarkdown_eq module entries address flagged) wrote
  refine ⟨?_, ?_, ?_⟩
  · intro fileName p after wrote
    obtain ⟨entries, _, shown⟩ := html wrote
    exact ⟨entries, shown⟩
  · intro fileName p after wrote
    obtain ⟨entries, _, shown⟩ := markdown fresh start wrote
    exact ⟨entries, shown⟩
  · intro v freshV startV same htmlName markdownName p q after later wrote other
    obtain ⟨entries, collected, collects, shown⟩ := html wrote
    obtain ⟨others, again, _, shownToo⟩ := markdown freshV startV other
    have equal : entries = others := by
      rcases same with rfl | ⟨replies, repeats⟩
      · exact Except.ok.inj (collected.symm.trans again)
      · obtain ⟨listing, listed, rfl⟩ :=
          entries_of_run_collect_ok repeats fresh start collected
        obtain ⟨found, known, rfl⟩ := entries_of_run_collect_ok repeats freshV startV again
        obtain rfl : listing = found := Except.ok.inj (listed.symm.trans known)
        rfl
    exact ⟨entries, collects, shown, equal ▸ shownToo⟩

/-- A command with help, one that fails, and the first one again: both summaries can be written, and
they show the same entries. -/
theorem summaries_list_readable_listed :
    ∃ entries p q after later,
      (writeHtml Host.catalogue {} ⟨.here, ["out"]⟩ none "Tools" ["Get-A"]).run listedWorkspace =
        (.ok p, after) ∧
      (writeMarkdown Host.catalogue {} ⟨.here, ["out"]⟩ none "Tools" "https://a/" ["Get-A"]).run
        listedWorkspace = (.ok q, later) ∧
      after.Shows p .html "Tools" ["Get-A"] entries ∧
      later.Shows q (.markdown "https://a/") "Tools" ["Get-A"] entries := by
  have fresh : listedWorkspace.Fresh := fun file member => by cases member
  have plain := Host.listsFlat_catalogue listedHost.modules listedHost.help (by decide)
  have there : listedWorkspace.store.isDirectory listedWorkspace.here ⟨.here, ["out"]⟩ =
      .ok true :=
    Files.Store.isDirectory_eq_true_iff.mpr
      ⟨["out"], Files.Store.locate_of_walk (by decide) (by decide) rfl, rfl⟩
  obtain ⟨entries, collected⟩ : ∃ entries,
      ((collect Host.catalogue {} "Tools").run listedWorkspace).1 = .ok entries := by
    have returns : ((collect Host.catalogue {} "Tools").run listedWorkspace).1.isOk = true := by
      decide +kernel
    cases given : ((collect Host.catalogue {} "Tools").run listedWorkspace).1 with
    | error failure =>
        rw [given] at returns
        cases returns
    | ok entries => exact ⟨entries, rfl⟩
  obtain ⟨after, html⟩ := (allOrNothing_writeSummary Host.catalogue {} ⟨.here, ["out"]⟩
    "Tools.html" "Tools" fun entries => Summary.renderHtml "Tools" entries ["Get-A"]).returns
      listedWorkspace ⟨.here, ["out", "Tools.html"]⟩ _ ⟨there, entries, collected, rfl, rfl⟩
      ⟨_, Files.Store.write_eq_ok_iff.mpr ⟨["out", "Tools.html"],
        Files.Store.locate_of_walk (by decide) (by decide) rfl, by decide, rfl⟩⟩
  obtain ⟨later, markdown⟩ := (allOrNothing_writeSummary Host.catalogue {} ⟨.here, ["out"]⟩
    "README.md" "Tools" fun entries =>
      Summary.renderMarkdown "Tools" entries "https://a/" ["Get-A"]).returns
      listedWorkspace ⟨.here, ["out", "README.md"]⟩ _ ⟨there, entries, collected, rfl, rfl⟩
      ⟨_, Files.Store.write_eq_ok_iff.mpr ⟨["out", "README.md"],
        Files.Store.locate_of_walk (by decide) (by decide) rfl, by decide, rfl⟩⟩
  obtain ⟨entries, _, shown, shownToo⟩ := (summaries_list_readable plain (by decide) (by decide)
    ["Get-A"] fresh ⟨rfl, rfl, rfl⟩).2.2 listedWorkspace fresh ⟨rfl, rfl, rfl⟩ (Or.inl rfl) none
      none _ _ after later html markdown
  exact ⟨entries, _, _, after, later, html, markdown, shown, shownToo⟩

end CommandDocs

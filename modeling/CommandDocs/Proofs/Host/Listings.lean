import CommandDocs.Host.PowerShell
import CommandDocs.Proofs.Host.Faults
import CommandDocs.Proofs.Outcomes
import CommandDocs.Proofs.Text.Breaks
import CommandDocs.Proofs.Text.Lines

/-!
# Listings of commands

A host lists the commands of a module one name a line.  However the lines are ended, whatever gaps
stand around the names and however many blank lines stand between them, the names are read as they
are, and nothing but such names is ever read.
-/

namespace CommandDocs.Host

open Text

variable {σ : Type}

/-! ## Listings -/

/-- A name that can be listed: it is not empty, has no blanks around it and holds no line break. -/
structure IsListedName (name : String) : Prop where
  nonempty : name ≠ ""
  first : ∀ c ∈ name.toList.head?, isBlank c = false
  last : ∀ c ∈ name.toList.getLast?, isBlank c = false
  unbroken : ∀ c ∈ name.toList, isBreak c = false

theorem isListedName_iff {name : String} :
    IsListedName name ↔ name ≠ "" ∧ (name.toList.head?.all fun c => !isBlank c) = true ∧
      (name.toList.getLast?.all fun c => !isBlank c) = true ∧
        (name.toList.all fun c => !isBreak c) = true := by
  simp only [Option.all_eq_true, List.all_eq_true, Bool.not_eq_true']
  exact ⟨fun listed => ⟨listed.nonempty, listed.first, listed.last, listed.unbroken⟩,
    fun ⟨nonempty, first, last, unbroken⟩ => ⟨nonempty, first, last, unbroken⟩⟩

instance (name : String) : Decidable (IsListedName name) :=
  decidable_of_iff _ isListedName_iff.symm

/-- A listing of some names: each of them stands on a line of its own, with nothing but gaps around
it, and any number of blank lines stand between them.  The last line need not be ended. -/
inductive Lists : List String → List Char → Prop
  | blank {s : List Char} (blanks : ∀ c ∈ s, isBlank c = true) : Lists [] s
  | last {name : String} {before after : List Char} (listed : IsListedName name)
      (front : ∀ c ∈ before, isGap c = true) (back : ∀ c ∈ after, isGap c = true) :
      Lists [name] (before ++ name.toList ++ after)
  | blankLine {names : List String} {s rest : List Char} (blanks : ∀ c ∈ s, isBlank c = true)
      (ending : Break) (more : Lists names rest) : Lists names (s ++ ending.chars ++ rest)
  | line {name : String} {names : List String} {before after rest : List Char}
      (listed : IsListedName name) (front : ∀ c ∈ before, isGap c = true)
      (back : ∀ c ∈ after, isGap c = true) (ending : Break) (more : Lists names rest) :
      Lists (name :: names) (before ++ name.toList ++ after ++ ending.chars ++ rest)

/-! ## The names on lines -/

def namesOn (lines : List (List Char)) : List String :=
  (lines.map fun line => String.ofList (trim line)).filter (· != "")

theorem namesIn_eq (output : String) : namesIn output = namesOn (breakLines output.toList) :=
  rfl

theorem namesOn_cons (line : List Char) (lines : List (List Char)) :
    namesOn (line :: lines) = namesOn [line] ++ namesOn lines := by
  rw [namesOn, List.map_cons, ← List.singleton_append, List.filter_append]
  rfl

theorem namesOn_of_trim {line : List Char} {name : String} (nonempty : name ≠ "")
    (trimmed : trim line = name.toList) : namesOn [line] = [name] := by
  simp [namesOn, trimmed, nonempty]

theorem namesOn_blank_cons {c : Char} (blank : isBlank c = true) (line : List Char) :
    namesOn [c :: line] = namesOn [line] := by
  have same : trim ([c] ++ line) = trim line := trimBoth_append_of_all_left (by simp [blank])
  rw [namesOn, namesOn, List.map_singleton, List.map_singleton, ← same]
  rfl

theorem trim_listed {name : String} {before after : List Char} (listed : IsListedName name)
    (front : ∀ c ∈ before, isGap c = true) (back : ∀ c ∈ after, isGap c = true) :
    trim (before ++ name.toList ++ after) = name.toList := by
  have blankFront : before.all isBlank = true :=
    List.all_eq_true.mpr fun c member => isBlank_of_isGap (front c member)
  have blankBack : after.all isBlank = true :=
    List.all_eq_true.mpr fun c member => isBlank_of_isGap (back c member)
  rw [trim, trimBoth_append_of_all blankBack, trimBoth_append_of_all_left blankFront]
  have begins : name.toList.dropWhile isBlank = name.toList :=
    dropWhile_append_of_head (List.forall_mem_nil _) listed.first
  have ends : name.toList.reverse.dropWhile isBlank = name.toList.reverse :=
    dropWhile_append_of_head (List.forall_mem_nil _) (by simpa using listed.last)
  rw [trimBoth, dropEndWhile, begins, ends, List.reverse_reverse]

theorem unbroken_listed {name : String} {before after : List Char} (listed : IsListedName name)
    (front : ∀ c ∈ before, isGap c = true) (back : ∀ c ∈ after, isGap c = true) :
    ∀ c ∈ before ++ name.toList ++ after, isBreak c = false := by
  have unbroken {c : Char} (gap : isGap c = true) : isBreak c = false := by
    simp only [isGap, Bool.or_eq_true, beq_iff_eq] at gap
    rcases gap with rfl | rfl <;> decide
  intro c member
  rcases List.mem_append.mp member with member | later
  · rcases List.mem_append.mp member with earlier | own
    · exact unbroken (front c earlier)
    · exact listed.unbroken c own
  · exact unbroken (back c later)

/-! ## Breaks -/

theorem isBlank_of_isBreak {c : Char} (ends : isBreak c = true) : isBlank c = true := by
  simp only [isBreak, Bool.or_eq_true, Bool.and_eq_true, decide_eq_true_eq, beq_iff_eq] at ends
  simp [isBlank, inIntervals, blankIntervals]
  omega

theorem breakLines_of_not_isBreak {c : Char} (inside : isBreak c = false) (rest : List Char) :
    breakLines (c :: rest) = match breakLines rest with
      | [] => [[c]]
      | line :: lines => (c :: line) :: lines := by
  rw [breakLines, inside]
  · rfl
  · rintro later rfl
    cases inside

/-- A break ends a line, and what follows it has the same names as without it. -/
theorem exists_breakLines_of_isBreak {c : Char} (ends : isBreak c = true) (rest : List Char) :
    ∃ more, breakLines (c :: rest) = [] :: more ∧ namesOn more = namesOn (breakLines rest) := by
  by_cases pair : ∃ later, c = '\r' ∧ rest = '\n' :: later
  · obtain ⟨later, rfl, rfl⟩ := pair
    have fed : breakLines ('\n' :: later) = [] :: breakLines later := rfl
    refine ⟨breakLines later, rfl, ?_⟩
    rw [fed, namesOn_cons]
    rfl
  · refine ⟨breakLines rest, ?_, rfl⟩
    rw [breakLines, if_pos ends]
    exact fun later carriage feed => pair ⟨later, carriage, feed⟩

theorem exists_breakLines_append {line : List Char} (unbroken : ∀ c ∈ line, isBreak c = false)
    {c : Char} (ends : isBreak c = true) (rest : List Char) :
    ∃ more, breakLines (line ++ c :: rest) = line :: more ∧
      namesOn more = namesOn (breakLines rest) := by
  induction line with
  | nil => exact exists_breakLines_of_isBreak ends rest
  | cons first line ih =>
      obtain ⟨more, broken, same⟩ := ih fun other member =>
        unbroken other (List.mem_cons_of_mem first member)
      refine ⟨more, ?_, same⟩
      rw [List.cons_append, breakLines_of_not_isBreak (unbroken first List.mem_cons_self), broken]

theorem breakLines_of_unbroken {line : List Char} (nonempty : line ≠ [])
    (unbroken : ∀ c ∈ line, isBreak c = false) : breakLines line = [line] := by
  induction line with
  | nil => exact absurd rfl nonempty
  | cons first line ih =>
      rw [breakLines_of_not_isBreak (unbroken first List.mem_cons_self)]
      by_cases last : line = []
      · rw [last]
        rfl
      · rw [ih last fun other member => unbroken other (List.mem_cons_of_mem first member)]

/-- A blank in front changes no names. -/
theorem namesOn_breakLines_cons {c : Char} (blank : isBlank c = true) (rest : List Char) :
    namesOn (breakLines (c :: rest)) = namesOn (breakLines rest) := by
  cases ends : isBreak c with
  | true =>
      obtain ⟨more, broken, same⟩ := exists_breakLines_of_isBreak ends rest
      rw [broken, namesOn_cons, same]
      rfl
  | false =>
      rw [breakLines_of_not_isBreak ends]
      cases breakLines rest with
      | nil => exact namesOn_blank_cons blank []
      | cons line lines =>
          dsimp only
          rw [namesOn_cons, namesOn_blank_cons blank, ← namesOn_cons]

theorem namesOn_breakLines_append {blanks : List Char} (all : ∀ c ∈ blanks, isBlank c = true)
    (rest : List Char) : namesOn (breakLines (blanks ++ rest)) = namesOn (breakLines rest) := by
  induction blanks with
  | nil => rfl
  | cons c blanks ih =>
      rw [List.cons_append, namesOn_breakLines_cons (all c List.mem_cons_self)]
      exact ih fun other member => all other (List.mem_cons_of_mem c member)

theorem exists_chars_eq_cons (ending : Break) : ∃ c more, ending.chars = c :: more ∧
    isBreak c = true ∧ ∀ other ∈ more, isBlank other = true := by
  cases ending with
  | feed => exact ⟨'\n', [], rfl, by decide, by simp⟩
  | pair => exact ⟨'\r', ['\n'], rfl, by decide, by simp; decide⟩
  | carriage => exact ⟨'\r', [], rfl, by decide, by simp⟩

/-! ## Reading listings -/

theorem namesOn_breakLines_of_lists {names : List String} {s : List Char} (lists : Lists names s) :
    namesOn (breakLines s) = names := by
  induction lists with
  | blank blanks =>
      have gone := namesOn_breakLines_append blanks []
      rwa [List.append_nil] at gone
  | last listed front back =>
      rw [breakLines_of_unbroken _ (unbroken_listed listed front back)]
      · exact namesOn_of_trim listed.nonempty (trim_listed listed front back)
      · intro empty
        exact listed.nonempty (by simpa using (List.append_eq_nil_iff.mp
          (List.append_eq_nil_iff.mp empty).1).2)
  | blankLine blanks ending more ih =>
      obtain ⟨c, others, chars, ends, blankOthers⟩ := exists_chars_eq_cons ending
      rw [chars, List.append_assoc, namesOn_breakLines_append blanks, List.cons_append,
        namesOn_breakLines_cons (isBlank_of_isBreak ends), namesOn_breakLines_append blankOthers,
        ih]
  | line listed front back ending more ih =>
      obtain ⟨c, others, chars, ends, blankOthers⟩ := exists_chars_eq_cons ending
      rw [chars, List.append_assoc, List.cons_append]
      obtain ⟨later, broken, same⟩ :=
        exists_breakLines_append (unbroken_listed listed front back) ends (others ++ _)
      rw [broken, namesOn_cons, same, namesOn_breakLines_append blankOthers, ih,
        namesOn_of_trim listed.nonempty (trim_listed listed front back), List.singleton_append]

theorem isBreak_of_mem_namesIn {output name : String} (member : name ∈ namesIn output)
    {c : Char} (here : c ∈ name.toList) : isBreak c = false := by
  obtain ⟨listed, _⟩ := List.mem_filter.mp member
  obtain ⟨line, known, rfl⟩ := List.mem_map.mp listed
  rw [String.toList_ofList] at here
  exact isBreak_of_mem_breakLines known ((Text.trimBoth_infix _ line).sublist.subset here)

theorem isListedName_of_mem_namesIn {output name : String} (member : name ∈ namesIn output) :
    IsListedName name where
  nonempty := by simpa using (List.mem_filter.mp member).2
  first := by
    obtain ⟨line, _, rfl⟩ := List.mem_map.mp (List.mem_filter.mp member).1
    rw [String.toList_ofList]
    exact fun c first => head?_trimBoth first
  last := by
    obtain ⟨line, _, rfl⟩ := List.mem_map.mp (List.mem_filter.mp member).1
    rw [String.toList_ofList]
    exact fun c last => getLast?_trimBoth last
  unbroken := fun _ here => isBreak_of_mem_namesIn member here

/-- What a process prints is read name by name. -/
theorem run_moduleCommands (runner : Launch → σ → Outcome × σ) (module : String)
    (talk : Talk (Shell σ)) :
    (((powerShell runner).moduleCommands module).run talk).1 =
      ((run runner (.moduleCommands module)).run talk).1.map fun printed => namesIn printed.1 := by
  have asked : ((powerShell runner).moduleCommands module).run talk =
      (run runner (.moduleCommands module) >>= fun printed => pure (namesIn printed.1) :
        Call (Shell σ) (List String)).run talk := rfl
  rw [asked, run_bind_pure]

theorem run_of_finished {runner : Launch → σ → Outcome × σ} {request : Request}
    {talk : Talk (Shell σ)} {output : String} {help : HelpFile}
    (ended : (runner (talk.state.launch talk.state.registry request) talk.state.runner).1 =
      .finished output help) :
    ((run runner request).run talk).1 = .ok (output, help) := by
  have begun (next : Talk (Shell σ) → Call (Shell σ) (String × HelpFile)) :
      (get >>= next).run talk = (next talk).run talk := rfl
  unfold run
  rw [begun]
  dsimp only [Shell.launch] at ended ⊢
  generalize runner _ talk.state.runner = result at ended ⊢
  obtain ⟨outcome, next⟩ := result
  obtain rfl : outcome = .finished output help := ended
  rfl

/-- **A listing that a process prints is read without loss: whatever is printed, names that can be
listed are returned, and if it is a listing of some names, these are the names.** -/
theorem moduleCommands_lists (runner : Launch → σ → Outcome × σ) (module : String)
    (talk : Talk (Shell σ)) {output : String} {help : HelpFile}
    (printed : (runner (talk.state.launch talk.state.registry (.moduleCommands module))
      talk.state.runner).1 = .finished output help) :
    ∃ names, (((powerShell runner).moduleCommands module).run talk).1 = .ok names ∧
      (∀ name ∈ names, IsListedName name) ∧
        ∀ listed, Lists listed output.toList → names = listed := by
  refine ⟨namesIn output, ?_, fun _ => isListedName_of_mem_namesIn, fun listed lists => ?_⟩
  · rw [run_moduleCommands, run_of_finished printed]
    rfl
  · rw [namesIn_eq, namesOn_breakLines_of_lists lists]

/-- A listing with all three breaks, gaps around the names, lines of blanks, and no break at the
end. -/
theorem moduleCommands_lists_mixed :
    let output := "\r\n \t\rGet A\t\r\n\x0b\u2003\n\n  Get-B \rGet A"
    let runner : Launch → Unit → Outcome × Unit :=
      fun _ state => (.finished output .untouched, state)
    Lists ["Get A", "Get-B", "Get A"] output.toList ∧
      (((powerShell runner).moduleCommands "Tools").run ⟨{ runner := () }, []⟩).1 =
        .ok ["Get A", "Get-B", "Get A"] := by
  intro output runner
  have spaced : IsListedName "Get A" := by decide
  have dashed : IsListedName "Get-B" := by decide
  have gaps {gaps : List Char} (all : gaps.all isGap = true) : ∀ c ∈ gaps, isGap c = true :=
    List.all_eq_true.mp all
  have blanks {s : List Char} (all : s.all isBlank = true) : ∀ c ∈ s, isBlank c = true :=
    List.all_eq_true.mp all
  have third := @Lists.last "Get A" [] [] spaced (gaps rfl) (gaps rfl)
  have second :=
    @Lists.line "Get-B" _ [' ', ' '] [' '] _ dashed (gaps rfl) (gaps rfl) .carriage third
  have between := @Lists.blankLine _ ['\x0b', '\u2003'] _ (blanks rfl) .feed
    (@Lists.blankLine _ [] _ (blanks rfl) .feed second)
  have first := @Lists.line "Get A" _ [] ['\t'] _ spaced (gaps rfl) (gaps rfl) .pair between
  have whole := @Lists.blankLine _ [] _ (blanks rfl) .pair
    (@Lists.blankLine _ [' ', '\t'] _ (blanks rfl) .carriage first)
  have lists : Lists ["Get A", "Get-B", "Get A"] output.toList := by
    convert whole using 1
    decide +kernel
  obtain ⟨names, returned, _, same⟩ := @moduleCommands_lists Unit runner "Tools"
    ⟨{ runner := () }, []⟩ output .untouched rfl
  exact ⟨lists, by rw [returned, same _ lists]⟩

end CommandDocs.Host

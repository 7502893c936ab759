import CommandDocs.Batch
import CommandDocs.Proofs.Workspace.Running

/-!
# Batches turn by turn

A batch takes its commands in turn.  A turn is the report, the step, and a warning when the step
fails on the command's own account; any other failure stops the batch in the middle of a turn.
-/

namespace CommandDocs.Batch

variable {η α : Type}

/-- Turns one after another, one for each command from a number on. -/
inductive Turns (turn : Nat → String → Workspace η → Except Failure α → Workspace η → Prop) :
    Nat → List String → Workspace η → List (Except Failure α) → Workspace η → Prop
  | done {index : Nat} {w : Workspace η} : Turns turn index [] w [] w
  | next {index : Nat} {command : String} {commands : List String}
      {before middle after : Workspace η} {outcome : Except Failure α}
      {outcomes : List (Except Failure α)}
      (first : turn index command before outcome middle)
      (rest : Turns turn (index + 1) commands middle outcomes after) :
      Turns turn index (command :: commands) before (outcome :: outcomes) after

theorem Turns.mono {turn other : Nat → String → Workspace η → Except Failure α → Workspace η → Prop}
    {index : Nat} {commands : List String} {before after : Workspace η}
    {outcomes : List (Except Failure α)} (turns : Turns turn index commands before outcomes after)
    (P : Workspace η → Prop) (start : P before)
    (step : ∀ {index command w outcome w'}, P w → turn index command w outcome w' →
      P w' ∧ other index command w outcome w') :
    P after ∧ Turns other index commands before outcomes after := by
  induction turns with
  | done => exact ⟨start, .done⟩
  | next first rest ih =>
      obtain ⟨holds, turned⟩ := step start first
      obtain ⟨ends, turns⟩ := ih holds
      exact ⟨ends, .next turned turns⟩

theorem Turns.length_eq
    {turn : Nat → String → Workspace η → Except Failure α → Workspace η → Prop} {index : Nat}
    {commands : List String} {before after : Workspace η} {outcomes : List (Except Failure α)}
    (turns : Turns turn index commands before outcomes after) :
    outcomes.length = commands.length := by
  induction turns with
  | done => rfl
  | next first rest ih => rw [List.length_cons, List.length_cons, ih]

variable (batch : Batch) (step : String → Act η α) (warning : String → Failure → String)
  (total : Nat)

/-- What is reported before a command is taken. -/
def due (index : Nat) (command : String) : List Progress :=
  if batch.reports then [⟨index, total, command⟩] else []

/-- A workspace in which a command has been reported. -/
def announced (index : Nat) (command : String) (w : Workspace η) : Workspace η :=
  { w with events := w.events ++ (batch.due total index command).map Event.reported }

/-- Whether a failure is left behind. -/
def goesOn (failure : Failure) : Bool :=
  failure.isPerCommand && !batch.failFast

/-- The turn of a command: the step is taken in a workspace in which the command has been
reported. -/
inductive Turn : Nat → String → Workspace η → Except Failure α → Workspace η → Prop
  | kept {index : Nat} {command : String} {w after : Workspace η} {value : α}
      (ran : (step command).run (batch.announced total index command w) = (.ok value, after)) :
      Turn index command w (.ok value) after
  | skipped {index : Nat} {command : String} {w after : Workspace η} {failure : Failure}
      (ran : (step command).run (batch.announced total index command w) = (.error failure, after))
      (goes : batch.goesOn failure = true) :
      Turn index command w (.error failure)
        { after with log := after.log ++ [⟨.warning, warning command failure⟩] }

theorem run_announce (index : Nat) (command : String) (w : Workspace η) :
    (batch.announce index total command).run w =
      (.ok (), batch.announced total index command w) := by
  unfold announce announced due
  cases batch.reports with
  | true => rfl
  | false =>
      rw [if_neg (by decide), if_neg (by decide), List.map_nil, List.append_nil]
      rfl

@[simp] theorem progress_announced (index : Nat) (command : String) (w : Workspace η) :
    (batch.announced total index command w).progress =
      w.progress ++ batch.due total index command := by
  refine (Workspace.progress_of_events _ rfl).trans ?_
  rw [List.filterMap_map]
  exact congrArg _ List.filterMap_some

@[simp] theorem temporary_announced (index : Nat) (command : String) (w : Workspace η) :
    (batch.announced total index command w).temporary = w.temporary := by
  refine (Workspace.temporary_of_events _ rfl).trans ?_
  generalize w.temporary = files
  induction batch.due total index command with
  | nil => rfl
  | cons progress rest ih => exact ih

/-! ## Running a batch -/

variable {batch step warning total}

/-- After a turn the batch goes on with the other commands. -/
theorem run_cons_of_turn {index : Nat} {command : String} {w middle : Workspace η}
    {outcome : Except Failure α}
    (turn : batch.Turn step warning total index command w outcome middle) (commands : List String) :
    (batch.run step warning total index (command :: commands)).run w =
      (((batch.run step warning total (index + 1) commands).run middle).1.map
          fun more => (command, outcome) :: more,
        ((batch.run step warning total (index + 1) commands).run middle).2) := by
  rw [Batch.run, run_bind_of_ok (run_announce batch total index command w),
    run_bind_of_ok (Act.run_attempt (step command) _)]
  cases turn with
  | kept ran =>
      rw [ran]
      exact run_bind_pure _ _ middle
  | @skipped after failure ran goes =>
      have required : (Act.require (failure.isPerCommand && !batch.failFast) failure :
          Act η Unit).run after = (.ok (), after) := by
        rw [Act.run_require, show (failure.isPerCommand && !batch.failFast) = true from goes]
        rfl
      rw [ran]
      dsimp only
      rw [run_bind_of_ok required, run_bind_of_ok (Act.run_note _ _ _)]
      exact run_bind_pure _ _ _

theorem run_cons_of_stop {index : Nat} {command : String} {w after : Workspace η}
    {failure : Failure}
    (ran : (step command).run (batch.announced total index command w) = (.error failure, after))
    (stops : batch.goesOn failure = false) (commands : List String) :
    (batch.run step warning total index (command :: commands)).run w = (.error failure, after) := by
  have required : (Act.require (failure.isPerCommand && !batch.failFast) failure : Act η Unit).run
      after = (.error failure, after) := by
    rw [Act.run_require, show (failure.isPerCommand && !batch.failFast) = false from stops]
    rfl
  rw [Batch.run, run_bind_of_ok (run_announce batch total index command w),
    run_bind_of_ok (Act.run_attempt (step command) _), ran]
  exact run_bind_of_error required

variable (batch step warning total) in
theorem turn_or_stop (index : Nat) (command : String) (w : Workspace η) :
    (∃ outcome after, batch.Turn step warning total index command w outcome after) ∨
      ∃ failure after, (step command).run (batch.announced total index command w) =
        (.error failure, after) ∧ batch.goesOn failure = false := by
  cases ran : (step command).run (batch.announced total index command w) with
  | mk outcome after =>
      cases outcome with
      | ok value => exact Or.inl ⟨_, _, .kept ran⟩
      | error failure =>
          cases goes : batch.goesOn failure with
          | true => exact Or.inl ⟨_, _, .skipped ran goes⟩
          | false => exact Or.inr ⟨failure, after, rfl, goes⟩

/-- A batch that gives results has taken every command in turn. -/
theorem turns_of_run_eq_ok {index : Nat} {commands : List String} {w after : Workspace η}
    {results : List (String × Except Failure α)}
    (ran : (batch.run step warning total index commands).run w = (.ok results, after)) :
    ∃ outcomes, results = commands.zip outcomes ∧
      Turns (batch.Turn step warning total) index commands w outcomes after := by
  induction commands generalizing index w results with
  | nil =>
      cases ran
      exact ⟨[], rfl, .done⟩
  | cons command commands ih =>
      rcases turn_or_stop batch step warning total index command w with
        ⟨outcome, middle, turn⟩ | ⟨failure, stopped, failed, stops⟩
      · rw [run_cons_of_turn turn] at ran
        cases rest : (batch.run step warning total (index + 1) commands).run middle with
        | mk result final =>
            rw [rest] at ran
            cases result with
            | error failure => cases ran
            | ok more =>
                cases ran
                obtain ⟨outcomes, same, turns⟩ := ih rest
                exact ⟨outcome :: outcomes, by rw [same]; rfl, .next turn turns⟩
      · rw [run_cons_of_stop failed stops] at ran
        cases ran

theorem stop_of_run_eq_error {index : Nat} {commands : List String} {w after : Workspace η}
    {failure : Failure}
    (ran : (batch.run step warning total index commands).run w = (.error failure, after)) :
    ∃ done command others outcomes middle, commands = done ++ command :: others ∧
      Turns (batch.Turn step warning total) index done w outcomes middle ∧
      (step command).run (batch.announced total (index + done.length) command middle) =
        (.error failure, after) ∧ batch.goesOn failure = false := by
  induction commands generalizing index w with
  | nil => cases ran
  | cons command commands ih =>
      rcases turn_or_stop batch step warning total index command w with
        ⟨outcome, middle, turn⟩ | ⟨found, stopped, failed, stops⟩
      · rw [run_cons_of_turn turn] at ran
        cases rest : (batch.run step warning total (index + 1) commands).run middle with
        | mk result final =>
            rw [rest] at ran
            cases result with
            | ok more => cases ran
            | error found =>
                cases ran
                obtain ⟨done, last, others, outcomes, before, same, turns, failed, stops⟩ := ih rest
                refine ⟨command :: done, last, others, outcome :: outcomes, before, ?_,
                  .next turn turns, ?_, stops⟩
                · rw [same]
                  rfl
                · rw [List.length_cons, Nat.add_comm done.length, ← Nat.add_assoc]
                  exact failed
      · rw [run_cons_of_stop failed stops] at ran
        cases ran
        exact ⟨[], command, commands, [], w, rfl, .done, failed, stops⟩

theorem run_eq_error_of_stop {index : Nat} {done : List String} {w middle after : Workspace η}
    {outcomes : List (Except Failure α)} {command : String} {failure : Failure}
    (turns : Turns (batch.Turn step warning total) index done w outcomes middle)
    (failed : (step command).run (batch.announced total (index + done.length) command middle) =
      (.error failure, after)) (stops : batch.goesOn failure = false) (others : List String) :
    (batch.run step warning total index (done ++ command :: others)).run w =
      (.error failure, after) := by
  induction turns with
  | done => exact run_cons_of_stop failed stops others
  | next first rest ih =>
      rw [List.length_cons, Nat.add_comm _ 1, ← Nat.add_assoc] at failed
      rw [List.cons_append, run_cons_of_turn first, ih failed]
      rfl

end CommandDocs.Batch

import CommandDocs.CommandLine.Program
import CommandDocs.Proofs.Workspace.Running

/-!
# Running the program

A run of the program takes a terminal to an outcome and a terminal.  Each way of making one says
here what it does when it is run.
-/

namespace CommandDocs.CommandLine.Run

variable {η α β : Type}

@[simp] theorem run_print (text : String) (t : Terminal η) :
    (print text).run t = (.ok (), { t with output := t.output ++ text }) :=
  rfl

@[simp] theorem run_ofMarkup_ok (value : α) (t : Terminal η) :
    (ofMarkup (.ok value)).run t = (.ok value, t) :=
  rfl

/-- Tags that are refused stop a run, and no status of its own is given. -/
theorem exists_run_ofMarkup_error (fault : Console.Markup.Fault) (t : Terminal η) :
    ∃ stop : Stop, (ofMarkup (.error fault) : Run η α).run t = (.error stop, t) ∧
      (stop = .markup fault ∨ ∃ number, stop = .failure (.number number)) := by
  cases fault with
  | number number => exact ⟨_, rfl, .inr ⟨number, rfl⟩⟩
  | unmatched body position => exact ⟨_, rfl, .inl rfl⟩
  | nothingToClose position => exact ⟨_, rfl, .inl rfl⟩

@[simp] theorem run_modify (f : Terminal η → Terminal η) (t : Terminal η) :
    (modify f : Run η Unit).run t = (.ok (), f t) :=
  rfl

theorem run_attempt (act : Act η α) (t : Terminal η) :
    (attempt act).run t = (.ok (act.run t.work).1, { t with work := (act.run t.work).2 }) :=
  rfl

/-- A failure never settles to a value. -/
theorem eq_ok_of_run_settle {result : Except Failure α} {t after : Terminal η} {value : α}
    (settled : (settle result).run t = (.ok value, after)) : result = .ok value ∧ after = t := by
  cases result with
  | ok found =>
      cases settled
      exact ⟨rfl, rfl⟩
  | error failure =>
      rw [settle] at settled
      cases report : failure.isReport with
      | true =>
          rw [report, if_pos rfl] at settled
          obtain ⟨_, middle, _, stopped⟩ := exists_of_run_bind_ok settled
          cases stopped
      | false =>
          rw [report] at settled
          cases settled

theorem run_of_run_work {act : Act η α} {t after : Terminal η} {value : α}
    (ran : (work act).run t = (.ok value, after)) :
    act.run t.work = (.ok value, after.work) ∧ after.output = t.output := by
  obtain ⟨result, middle, tried, settled⟩ := exists_of_run_bind_ok ran
  rw [run_attempt] at tried
  cases tried
  obtain ⟨found, rfl⟩ := eq_ok_of_run_settle settled
  exact ⟨Prod.ext found rfl, rfl⟩

/-- What is said changes nothing in the workspace. -/
theorem work_of_run_say {text : String} {t after : Terminal η}
    (ran : (say text).run t = (.ok (), after)) : after.work = t.work := by
  obtain ⟨marked, middle, found, printed⟩ := exists_of_run_bind_ok ran
  cases tags : Console.Markup.render text.toList with
  | ok value =>
      rw [tags, run_ofMarkup_ok] at found
      cases found
      cases printed
      rfl
  | error fault =>
      obtain ⟨stop, stopped, -⟩ := exists_run_ofMarkup_error (α := Console.Marked) fault t
      rw [tags, stopped] at found
      cases found

def barsShown (caption : String) (earlier : Nat) (w : Workspace η) : List Bar :=
  ⟨caption, none, 0⟩ :: (w.progress.drop earlier).map Bar.ofProgress

/-- Work that succeeds under a bar fills the bar and prints nothing. -/
theorem run_workWithBar_of_ok {caption : String} {act : Act η α} {t : Terminal η} {value : α}
    {w : Workspace η} (ran : act.run t.work = (.ok value, w)) :
    (workWithBar caption act).run t =
      (.ok value, { t with
        work := w
        bars :=
          let shown := barsShown caption t.work.progress.length w
          t.bars ++ shown ++ [(shown.getLastD ⟨caption, none, 0⟩).finished] }) := by
  have begun : (get : Run η (Terminal η)).run t = (.ok t, t) := rfl
  rw [workWithBar, run_bind_of_ok begun, run_bind_of_ok (run_attempt act _), ran]
  rfl

end CommandDocs.CommandLine.Run

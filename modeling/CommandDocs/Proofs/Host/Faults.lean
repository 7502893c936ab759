import CommandDocs.Proofs.Host.Registry
import CommandDocs.Proofs.Outcomes
import CommandDocs.Proofs.Text.Documents
import CommandDocs.Text.Line

/-!
# Failures of the PowerShell host

A process may not be started at all, run out of time, fail, or print bytes that are no text.  The
host reports a missing executable, a timeout and a failed process about itself.  Any other refusal
to start a process, output that is no text, and a width that cannot be written come out of a call as
they are.
-/

namespace CommandDocs.Host

open Text

variable {σ : Type}

/-! ## How processes end -/

/-- Why the system does not start a process.  An argument that it does not take, such as one with a
null character, is another reason, and so is a file that is no program. -/
inductive Refusal where
  | missing
  | denied
  | other (text : String)
  deriving DecidableEq, Repr

/-- How a process ends, with the bytes that it has printed. -/
inductive Ending where
  | unstarted (refusal : Refusal)
  | timedOut
  | exited (status : Int) (output errors : List UInt8) (help : HelpFile)
  deriving DecidableEq, Repr

def readPrinted (bytes : List UInt8) : Except DecodeFault String :=
  (decodeText bytes).map fun text => String.ofList (unifyBreaks text.toList)

/-- What an ending comes to.  Both outputs are read before the status is looked at. -/
def Ending.outcome : Ending → Outcome
  | .unstarted .missing => .missing
  | .unstarted .denied => .denied
  | .unstarted (.other text) => .refused text
  | .timedOut => .timedOut
  | .exited status output errors help =>
      match readPrinted output, readPrinted errors with
      | .error fault, _ => .garbled fault
      | .ok _, .error fault => .garbled fault
      | .ok output, .ok errors =>
          if status = 0 then .finished output help else .exited status errors

/-- What runs processes, for a host. -/
def outcomes (runner : Launch → σ → Ending × σ) (launch : Launch) (state : σ) : Outcome × σ :=
  ((runner launch state).1.outcome, (runner launch state).2)

/-- Whether the host has no words of its own for an ending. -/
def Ending.IsLapse : Ending → Prop
  | .unstarted refusal => refusal ≠ .missing
  | .timedOut => False
  | .exited _ output errors _ => ¬(IsText output ∧ IsText errors)

/-- Whether the host has no words of its own for what comes of a process. -/
def Outcome.IsLapse : Outcome → Prop
  | .denied | .refused _ | .garbled _ => True
  | .finished _ _ | .exited _ _ | .missing | .timedOut => False

theorem exists_readPrinted_eq_ok_iff {bytes : List UInt8} :
    (∃ text, readPrinted bytes = .ok text) ↔ IsText bytes := by
  rw [← exists_decodeText_eq_ok_iff, readPrinted]
  cases decodeText bytes with
  | error fault => exact ⟨by rintro ⟨_, ⟨⟩⟩, by rintro ⟨_, ⟨⟩⟩⟩
  | ok text => exact ⟨fun _ => ⟨text, rfl⟩, fun _ => ⟨_, rfl⟩⟩

theorem Ending.isLapse_outcome_iff (ending : Ending) :
    ending.outcome.IsLapse ↔ ending.IsLapse := by
  cases ending with
  | unstarted refusal => cases refusal <;> simp [outcome, Outcome.IsLapse, IsLapse]
  | timedOut => exact Iff.rfl
  | exited status output errors help =>
      rw [IsLapse, ← exists_readPrinted_eq_ok_iff, ← exists_readPrinted_eq_ok_iff, outcome]
      cases readPrinted output with
      | error fault => simp [Outcome.IsLapse]
      | ok output =>
          cases readPrinted errors with
          | error fault => simp [Outcome.IsLapse]
          | ok errors => by_cases zero : status = 0 <;> simp [zero, Outcome.IsLapse]

/-! ## What a call reports -/

/-- Whether an answer is a value or a failure that the host reports about itself. -/
def IsReported {α : Type} (answer : Except Fault α) : Prop :=
  ∀ fault, answer = .error fault → fault.isHostError = true

theorem isReported_ok {α : Type} (value : α) : IsReported (.ok value : Except Fault α) := by
  rintro fault ⟨⟩

theorem isReported_error_iff {α : Type} {fault : Fault} :
    IsReported (.error fault : Except Fault α) ↔ fault.isHostError = true := by
  constructor
  · exact fun reported => reported fault rfl
  · rintro own _ ⟨⟩
    exact own

/-- What comes after a call and never fails reports what the call reports. -/
theorem isReported_bind_iff {η α β : Type} (call : Call η α) (next : α → Call η β)
    (sure : ∀ value talk, ∃ after, ((next value).run talk).1 = .ok after) (talk : Talk η) :
    IsReported ((call >>= next).run talk).1 ↔ IsReported (call.run talk).1 := by
  rw [run_bind]
  cases call.run talk with
  | mk answer talk =>
      cases answer with
      | error fault => exact isReported_error_iff.trans isReported_error_iff.symm
      | ok value =>
          obtain ⟨after, done⟩ := sure value talk
          exact ⟨fun _ => isReported_ok value, fun _ => done ▸ isReported_ok after⟩

/-- The process of a request. -/
def Shell.launch (shell : Shell σ) (imported : List Registration) (request : Request) : Launch :=
  ⟨[shell.executable, "-NoProfile", "-NonInteractive", "-Command",
    fullScript (imported.map (·.path)) request], shell.timeout⟩

theorem isReported_run_iff (runner : Launch → σ → Outcome × σ) (request : Request)
    (talk : Talk (Shell σ)) :
    IsReported ((run runner request).run talk).1 ↔
      ¬(runner (talk.state.launch talk.state.registry request) talk.state.runner).1.IsLapse := by
  have begun (next : Talk (Shell σ) → Call (Shell σ) (String × HelpFile)) :
      (get >>= next).run talk = (next talk).run talk := rfl
  unfold run
  rw [begun]
  dsimp only [Shell.launch]
  generalize runner _ talk.state.runner = ended
  obtain ⟨outcome, next⟩ := ended
  have reported {answer : Except Fault (String × HelpFile)} (own : IsReported answer)
      (proper : ¬outcome.IsLapse) : IsReported answer ↔ ¬outcome.IsLapse :=
    ⟨fun _ => proper, fun _ => own⟩
  have escaping {fault : Fault} (foreign : fault.isHostError = false) (lapse : outcome.IsLapse) :
      IsReported (.error fault : Except Fault (String × HelpFile)) ↔ ¬outcome.IsLapse := by
    rw [isReported_error_iff, foreign]
    exact ⟨fun own => (Bool.false_ne_true own).elim, fun proper => absurd lapse proper⟩
  cases outcome with
  | finished output help => exact reported (isReported_ok _) id
  | exited status errors => exact reported (isReported_error_iff.mpr rfl) id
  | missing => exact reported (isReported_error_iff.mpr rfl) id
  | timedOut => exact reported (isReported_error_iff.mpr rfl) id
  | denied => exact escaping rfl trivial
  | refused text => exact escaping rfl trivial
  | garbled fault => exact escaping rfl trivial

/-! ## Calls -/

/-- Whether a call comes to something that the host has no words for: a width that cannot be
written, or the end of the process that it starts. -/
def Recorded.Lapses (ending : Launch → Ending) (shell : Shell σ) (call : Recorded) : Prop :=
  (∃ command path width, call = .writeHelp command path width ∧ isWritable width = false) ∨
    ∃ launch ∈ call.launches shell.executable shell.timeout shell.registry,
      (ending launch).IsLapse

section Lapses

variable {ending : Launch → Ending} {shell : Shell σ} {call : Recorded}

theorem Recorded.lapses_iff_of_starts (starts : call.starts shell.registry = true) :
    call.Lapses ending shell ↔
      (ending (shell.launch (call.imported shell.registry) call.request)).IsLapse := by
  have launched : call.launches shell.executable shell.timeout shell.registry =
      [shell.launch (call.imported shell.registry) call.request] := by
    rw [Recorded.launches_eq, if_pos starts]
    simp only [Shell.launch]
  rw [Lapses, launched]
  constructor
  · rintro (⟨command, path, width, rfl, unwritable⟩ | ⟨_, member, lapse⟩)
    · exact (Bool.false_ne_true (unwritable.symm.trans starts)).elim
    · rwa [List.mem_singleton.mp member] at lapse
  · exact fun lapse => .inr ⟨_, List.mem_singleton_self _, lapse⟩

theorem Recorded.lapses_iff_of_not_starts (starts : call.starts shell.registry = false) :
    call.Lapses ending shell ↔ ∃ command path width, call = .writeHelp command path width := by
  rw [Lapses, launches_eq_nil_iff.mpr starts]
  constructor
  · rintro (⟨command, path, width, same, _⟩ | ⟨_, member, _⟩)
    · exact ⟨command, path, width, same⟩
    · cases member
  · rintro ⟨command, path, width, rfl⟩
    exact .inl ⟨command, path, width, rfl, starts⟩

end Lapses

section PowerShell

variable (runner : Launch → σ → Ending × σ)

/-- Whether a call reports everything but lapses. -/
def Recorded.Reports (call : Recorded) (talk : Talk (Shell σ)) : Prop :=
  IsReported ((call.make (powerShell (outcomes runner))).run talk).1 ↔
    ¬call.Lapses (fun launch => (runner launch talk.state.runner).1) talk.state

theorem Recorded.reports_of_run {call : Recorded} {talk : Talk (Shell σ)}
    (starts : call.starts talk.state.registry = true)
    (same : IsReported ((call.make (powerShell (outcomes runner))).run talk).1 ↔
      IsReported ((run (outcomes runner) call.request).run
        { talk with state :=
          { talk.state with registry := call.imported talk.state.registry } }).1) :
    call.Reports runner talk := by
  rw [Reports, same, isReported_run_iff, lapses_iff_of_starts starts]
  exact not_congr (Ending.isLapse_outcome_iff _)

theorem reports_moduleExists (name : String) (talk : Talk (Shell σ)) :
    (Recorded.moduleExists name).Reports runner talk := by
  have asked : ((powerShell (outcomes runner)).moduleExists name).run talk =
      (if talk.state.registry.any fun r => r.module == name then pure true
        else check (outcomes runner) (.moduleExists name) : Call (Shell σ) Bool).run talk := rfl
  have last := isReported_bind_iff ((powerShell (outcomes runner)).moduleExists name)
    (fun _ => pure ()) (fun _ _ => ⟨(), rfl⟩) talk
  cases there : talk.state.registry.any fun r => r.module == name with
  | true =>
      have starts : (Recorded.moduleExists name).starts talk.state.registry = false := by
        rw [Recorded.starts, there]; rfl
      rw [there] at asked
      rw [Recorded.Reports, Recorded.make, last, asked, Recorded.lapses_iff_of_not_starts starts]
      exact ⟨fun _ => by rintro ⟨_, _, _, ⟨⟩⟩, fun _ => isReported_ok true⟩
  | false =>
      rw [there] at asked
      refine Recorded.reports_of_run runner (by rw [Recorded.starts, there]; rfl) ?_
      rw [Recorded.make, last, asked]
      exact isReported_bind_iff _ _ (fun _ _ => ⟨_, rfl⟩) talk

theorem reports_writeHelp (command path : String) (width : Int) (talk : Talk (Shell σ)) :
    (Recorded.writeHelp command path width).Reports runner talk := by
  have asked : ((powerShell (outcomes runner)).writeHelp command path width).run talk =
      (if !isWritable width then throw (.number .tooLarge) else
        run (outcomes runner) (.writeHelp command path width) >>= fun printed => pure printed.2 :
          Call (Shell σ) HelpFile).run talk := by
    cases writable : isWritable width <;> simp [powerShell, writable]
  have last := isReported_bind_iff ((powerShell (outcomes runner)).writeHelp command path width)
    (fun _ => pure ()) (fun _ _ => ⟨(), rfl⟩) talk
  have starts : (Recorded.writeHelp command path width).starts talk.state.registry =
      isWritable width := rfl
  cases writable : isWritable width with
  | false =>
      rw [writable] at asked
      rw [Recorded.Reports, Recorded.make, last, asked,
        Recorded.lapses_iff_of_not_starts (starts.trans writable)]
      exact ⟨fun own => absurd (isReported_error_iff.mp own) (by decide),
        fun proper => absurd ⟨command, path, width, rfl⟩ proper⟩
  | true =>
      rw [writable] at asked
      refine Recorded.reports_of_run runner (starts.trans writable) ?_
      rw [Recorded.make, last, asked]
      exact isReported_bind_iff _ _ (fun _ _ => ⟨_, rfl⟩) talk

/-- Every call reports everything but lapses. -/
theorem Recorded.reports (call : Recorded) (talk : Talk (Shell σ)) :
    call.Reports runner talk := by
  cases call with
  | commandExists name =>
      refine reports_of_run runner rfl ?_
      exact (isReported_bind_iff _ _ (fun _ _ => ⟨(), rfl⟩) talk).trans
        (isReported_bind_iff _ _ (fun _ _ => ⟨_, rfl⟩) talk)
  | moduleExists name => exact reports_moduleExists runner name talk
  | moduleCommands module =>
      refine reports_of_run runner rfl ?_
      exact (isReported_bind_iff _ _ (fun _ _ => ⟨(), rfl⟩) talk).trans
        (isReported_bind_iff _ _ (fun _ _ => ⟨_, rfl⟩) talk)
  | writeHelp command path width => exact reports_writeHelp runner command path width talk
  | reloadModule module path =>
      refine reports_of_run runner rfl ?_
      exact isReported_bind_iff (run (outcomes runner) (.importModule path)) _
        (fun _ _ => ⟨(), rfl⟩)
        { talk with state := { talk.state with registry := unregister module talk.state.registry } }

/-- **Every failure of a call is one that the host reports about itself exactly when the call comes
to no lapse, and the registry is left as it was by every call that reloads nothing.** -/
theorem isReported_iff_not_lapses (talk : Talk (Shell σ)) (call : Recorded) :
    let made := (call.make (powerShell (outcomes runner))).run talk
    (IsReported made.1 ↔
        ¬call.Lapses (fun launch => (runner launch talk.state.runner).1) talk.state) ∧
      ((∀ module, call.reloads module = false) →
        made.2.state.registry = talk.state.registry) := by
  intro made
  refine ⟨call.reports runner talk, fun plain => ?_⟩
  exact (call.abides (outcomes runner) talk).registry.trans (Event.register_of_plain plain _ _)

/-- An executable that may not be run is not reported. -/
theorem not_isReported_denied :
    let shell : Shell Unit := { runner := () }
    ¬IsReported (((Recorded.commandExists "Get-A").make
      (powerShell (outcomes fun _ _ => (.unstarted .denied, ())))).run ⟨shell, []⟩).1 := by
  intro shell reported
  have proper := (isReported_iff_not_lapses (fun _ _ => (.unstarted .denied, ())) ⟨shell, []⟩
    (.commandExists "Get-A")).1.mp reported
  exact proper (.inr ⟨_, List.mem_singleton_self _, by rintro ⟨⟩⟩)

end PowerShell

end CommandDocs.Host

import CommandDocs.Host.Catalogue
import CommandDocs.Host.PowerShell
import CommandDocs.Proofs.Outcomes

/-!
# The registry of the PowerShell host

The registered modules follow from the calls that have been made: a module is registered exactly
when the last call that reloaded it has returned.  Every process imports the modules registered at
its start, and a module that is being reloaded is not one of them.
-/

namespace CommandDocs.Host

variable {η σ : Type}

/-! ## Histories -/

/-- A call that has been made, and whether it returned. -/
structure Event where
  call : Recorded
  returned : Bool
  deriving DecidableEq, Repr

/-- Makes a call, whatever its answer is. -/
def Recorded.make (host : Host η) : Recorded → Call η Unit
  | .commandExists name => do let _ ← host.commandExists name
  | .moduleExists name => do let _ ← host.moduleExists name
  | .moduleCommands module => do let _ ← host.moduleCommands module
  | .writeHelp command path width => do let _ ← host.writeHelp command path width
  | .reloadModule module path => host.reloadModule module path

/-- Makes some calls one after the other, and goes on after those that fail: the history of the
calls, and the talk that they leave. -/
def converse (host : Host η) : List Recorded → Talk η → List Event × Talk η
  | [], talk => ([], talk)
  | call :: calls, talk =>
      let made := (call.make host).run talk
      let rest := converse host calls made.2
      (⟨call, made.1.isOk⟩ :: rest.1, rest.2)

/-! ## What a history registers -/

def Recorded.reloads (module : String) : Recorded → Bool
  | .reloadModule reloaded _ => reloaded == module
  | _ => false

/-- What is registered by a reload that has returned. -/
def Event.registration? : Event → Option Registration
  | ⟨.reloadModule module path, true⟩ => some ⟨module, path⟩
  | _ => none

/-- Whether a module is reloaded in a history, with or without success. -/
def isReloadedIn (history : List Event) (module : String) : Bool :=
  history.any fun event => event.call.reloads module

/-- The modules that are registered after a history: those whose last reload has returned, each
with the path given to that reload, in the order of these reloads. -/
def registered : List Event → List Registration
  | [] => []
  | event :: later =>
      match event.registration? with
      | none => registered later
      | some r => if isReloadedIn later r.module then registered later else r :: registered later

/-- What a call makes of a registry: a reload takes its module away, and puts it last when it
returns. -/
def Event.register (event : Event) (registry : List Registration) : List Registration :=
  match event.call with
  | .reloadModule module _ => unregister module registry ++ event.registration?.toList
  | _ => registry

theorem isReloadedIn_eq_false_iff {history : List Event} {module : String} :
    isReloadedIn history module = false ↔
      ∀ event ∈ history, event.call.reloads module = false := by
  simp [isReloadedIn]

theorem isReloadedIn_concat (history : List Event) (event : Event) (module : String) :
    isReloadedIn (history ++ [event]) module =
      (isReloadedIn history module || event.call.reloads module) := by
  simp [isReloadedIn]

theorem unregister_cons (module : String) (r : Registration) (registry : List Registration) :
    unregister module (r :: registry) =
      if r.module = module then unregister module registry
      else r :: unregister module registry := by
  by_cases same : r.module = module <;> simp [unregister, same]

/-- One more call makes of the registry what the call makes of it. -/
theorem registered_concat (history : List Event) (event : Event) :
    registered (history ++ [event]) = event.register (registered history) := by
  obtain ⟨call, returned⟩ := event
  induction history with
  | nil => cases call <;> cases returned <;> rfl
  | cons first later ih =>
      rw [List.cons_append, registered, registered, ih]
      cases first.registration? with
      | none => rfl
      | some r =>
          dsimp only
          rw [isReloadedIn_concat]
          cases again : isReloadedIn later r.module with
          | true => rfl
          | false =>
              cases call with
              | reloadModule module path =>
                  by_cases same : r.module = module
                  · simp [same, Recorded.reloads, Event.register, unregister_cons]
                  · simp [same, Ne.symm same, Recorded.reloads, Event.register, unregister_cons]
              | _ => rfl

/-- A reload that fails takes its module away and leaves the others. -/
example : registered [⟨.reloadModule "A" "a.psm1", true⟩, ⟨.reloadModule "B" "b.psm1", true⟩,
    ⟨.reloadModule "A" "c.psm1", false⟩] = [⟨"B", "b.psm1"⟩] := by
  decide

/-- A later registration is not lost to an earlier call. -/
theorem registered_subset_cons (event : Event) (later : List Event) :
    registered later ⊆ registered (event :: later) := by
  intro r member
  rw [registered]
  split
  · exact member
  · split
    · exact member
    · exact List.mem_cons_of_mem _ member

/-- A module is registered exactly when the last call that reloads it has returned. -/
theorem mem_registered_iff {history : List Event} {module path : String} :
    ⟨module, path⟩ ∈ registered history ↔
      ∃ before after, history = before ++ ⟨.reloadModule module path, true⟩ :: after ∧
        ∀ event ∈ after, event.call.reloads module = false := by
  constructor
  · intro member
    induction history with
    | nil => cases member
    | cons first later ih =>
        have onward (found : ⟨module, path⟩ ∈ registered later) :
            ∃ before after, first :: later =
                before ++ ⟨.reloadModule module path, true⟩ :: after ∧
              ∀ event ∈ after, event.call.reloads module = false := by
          obtain ⟨before, after, rfl, last⟩ := ih found
          exact ⟨first :: before, after, rfl, last⟩
        rw [registered] at member
        split at member
        · exact onward member
        · rename_i r own
          split at member
          · exact onward member
          · rename_i last
            rcases List.mem_cons.mp member with rfl | found
            · obtain rfl : first = ⟨.reloadModule module path, true⟩ := by
                obtain ⟨call, returned⟩ := first
                cases call <;> cases returned <;> simp_all [Event.registration?]
              exact ⟨[], later, rfl, isReloadedIn_eq_false_iff.mp (by simpa using last)⟩
            · exact onward found
  · rintro ⟨before, after, rfl, last⟩
    induction before with
    | nil =>
        rw [List.nil_append, registered]
        simp [Event.registration?, isReloadedIn_eq_false_iff.mpr last]
    | cons first before ih => exact registered_subset_cons first _ ih

/-- No module is registered twice. -/
theorem nodup_registered (history : List Event) :
    ((registered history).map Registration.module).Nodup := by
  induction history with
  | nil => exact .nil
  | cons first later ih =>
      rw [registered]
      split
      · exact ih
      · split
        · exact ih
        · rename_i last
          refine List.nodup_cons.mpr ⟨fun member => ?_, ih⟩
          obtain ⟨⟨module, path⟩, found, same⟩ := List.mem_map.mp member
          obtain ⟨before, after, rfl, _⟩ := mem_registered_iff.mp found
          refine last (List.any_eq_true.mpr ⟨⟨.reloadModule module path, true⟩, ?_, ?_⟩)
          · exact List.mem_append_right _ List.mem_cons_self
          · simpa [Recorded.reloads] using same

/-! ## One call -/

/-- What a process is started for in a call. -/
def Recorded.request : Recorded → Request
  | .commandExists name => .commandExists name
  | .moduleExists name => .moduleExists name
  | .moduleCommands module => .moduleCommands module
  | .writeHelp command path width => .writeHelp command path width
  | .reloadModule _ path => .importModule path

/-- The modules that are imported in a call: all that are registered, but for one that is being
reloaded. -/
def Recorded.imported (registry : List Registration) : Recorded → List Registration
  | .reloadModule module _ => unregister module registry
  | _ => registry

/-- Whether a call starts a process.  A registered module is known to exist, and help is not asked
for at a width that cannot be written. -/
def Recorded.starts (registry : List Registration) : Recorded → Bool
  | .moduleExists name => !registry.any fun r => r.module == name
  | .writeHelp _ _ width => Text.isWritable width
  | _ => true

/-- The processes that a call starts: at most one, which imports the modules line by line and then
runs the script of the call. -/
def Recorded.launches (executable : String) (timeout : Int) (registry : List Registration)
    (call : Recorded) : List Launch :=
  if call.starts registry then
    let imports := (call.imported registry).map fun r =>
      "Import-Module -Name " ++ quote r.path ++ " -Force -ErrorAction Stop"
    let script := "\n".intercalate (imports ++ [call.request.script])
    [⟨[executable, "-NoProfile", "-NonInteractive", "-Command", script], timeout⟩]
  else []

theorem Recorded.launches_eq (executable : String) (timeout : Int) (registry : List Registration)
    (call : Recorded) : call.launches executable timeout registry =
      if call.starts registry then
        [⟨[executable, "-NoProfile", "-NonInteractive", "-Command",
          fullScript ((call.imported registry).map (·.path)) call.request], timeout⟩]
      else [] := by
  rw [launches, fullScript, List.map_map]
  rfl

def Shell.launched (shell : Shell σ) (request : Request) (runner : σ) : Shell σ :=
  { shell with
    runner
    launches := shell.launches ++ [
      ⟨[shell.executable, "-NoProfile", "-NonInteractive", "-Command",
        fullScript (shell.registry.map (·.path)) request], shell.timeout⟩] }

/-- A run starts one process, whatever comes of it. -/
theorem exists_of_run (runner : Launch → σ → Outcome × σ) (request : Request)
    (talk : Talk (Shell σ)) :
    ∃ outcome next log, (run runner request).run talk =
      (outcome, ⟨talk.state.launched request next, log⟩) := by
  have begun (next : Talk (Shell σ) → Call (Shell σ) (String × HelpFile)) :
      (get >>= next).run talk = (next talk).run talk := rfl
  unfold run
  rw [begun]
  dsimp only
  generalize runner _ talk.state.runner = ended
  obtain ⟨outcome, next⟩ := ended
  cases outcome <;> exact ⟨_, next, _, rfl⟩

theorem launches_eq_nil_iff {executable : String} {timeout : Int} {registry : List Registration}
    {call : Recorded} :
    call.launches executable timeout registry = [] ↔ call.starts registry = false := by
  cases starts : call.starts registry <;> simp [Recorded.launches, starts]

theorem starts_moduleExists_eq_false_iff {registry : List Registration} {module : String} :
    (Recorded.moduleExists module).starts registry = false ↔
      ∃ path, ⟨module, path⟩ ∈ registry := by
  rw [Recorded.starts, Bool.not_eq_false', List.any_eq_true]
  constructor
  · rintro ⟨⟨_, path⟩, member, same⟩
    obtain rfl := beq_iff_eq.mp same
    exact ⟨path, member⟩
  · rintro ⟨path, member⟩
    exact ⟨⟨module, path⟩, member, beq_self_eq_true module⟩

/-- What a call does to a shell. -/
structure Recorded.Does (call : Recorded) (returned : Bool) (before after : Shell σ) : Prop where
  executable : after.executable = before.executable
  timeout : after.timeout = before.timeout
  registry : after.registry = Event.register ⟨call, returned⟩ before.registry
  launches : after.launches =
    before.launches ++ call.launches before.executable before.timeout before.registry

section Does

variable {call : Recorded} {shell : Shell σ} (plain : ∀ module, call.reloads module = false)
include plain

theorem Event.register_of_plain (returned : Bool) (registry : List Registration) :
    Event.register ⟨call, returned⟩ registry = registry := by
  cases call with
  | reloadModule module path => simp [Recorded.reloads] at plain
  | _ => rfl

theorem Recorded.imported_of_plain (registry : List Registration) :
    call.imported registry = registry := by
  cases call with
  | reloadModule module path => simp [Recorded.reloads] at plain
  | _ => rfl

theorem Recorded.does_of_starts (starts : call.starts shell.registry = true) (returned : Bool)
    (next : σ) : call.Does returned shell (shell.launched call.request next) where
  executable := rfl
  timeout := rfl
  registry := (Event.register_of_plain plain returned _).symm
  launches := by
    rw [Recorded.launches_eq, if_pos starts, imported_of_plain plain]
    rfl

theorem Recorded.does_of_not_starts (starts : call.starts shell.registry = false)
    (returned : Bool) : call.Does returned shell shell where
  executable := rfl
  timeout := rfl
  registry := (Event.register_of_plain plain returned _).symm
  launches := by simp [Recorded.launches, starts]

end Does

/-- What comes after a call and lets the talk be has no part in the talk that is left. -/
theorem run_bind_snd {α β : Type} (call : Call η α) (next : α → Call η β)
    (still : ∀ value talk, ((next value).run talk).2 = talk) (talk : Talk η) :
    ((call >>= next).run talk).2 = (call.run talk).2 := by
  rw [run_bind]
  cases call.run talk with
  | mk outcome after =>
      cases outcome with
      | ok value => exact still value after
      | error fault => rfl

section PowerShell

variable (runner : Launch → σ → Outcome × σ)

/-- A call that is made does to the shell what it is to do. -/
def Recorded.Abides (call : Recorded) (talk : Talk (Shell σ)) : Prop :=
  call.Does ((call.make (powerShell runner)).run talk).1.isOk talk.state
    ((call.make (powerShell runner)).run talk).2.state

/-- A call that is no reload and comes to a run does what the run does. -/
theorem Recorded.abides_of_run {call : Recorded} {talk : Talk (Shell σ)}
    (plain : ∀ module, call.reloads module = false)
    (starts : call.starts talk.state.registry = true)
    (left : ((call.make (powerShell runner)).run talk).2 = ((run runner call.request).run talk).2) :
    call.Abides runner talk := by
  obtain ⟨outcome, next, log, ran⟩ := exists_of_run runner call.request talk
  rw [Abides, left, ran]
  exact does_of_starts plain starts _ next

/-- So does a call that is no reload, starts no process and leaves the talk as it was. -/
theorem Recorded.abides_of_not_starts {call : Recorded} {talk : Talk (Shell σ)}
    (plain : ∀ module, call.reloads module = false)
    (starts : call.starts talk.state.registry = false)
    (left : ((call.make (powerShell runner)).run talk).2 = talk) : call.Abides runner talk := by
  rw [Abides, left]
  exact does_of_not_starts plain starts _

theorem abides_moduleExists (name : String) (talk : Talk (Shell σ)) :
    (Recorded.moduleExists name).Abides runner talk := by
  have asked : ((powerShell runner).moduleExists name).run talk =
      (if talk.state.registry.any fun r => r.module == name then pure true
        else check runner (.moduleExists name) : Call (Shell σ) Bool).run talk := rfl
  have left := run_bind_snd ((powerShell runner).moduleExists name)
    (fun _ => pure ()) (fun _ _ => rfl) talk
  cases there : talk.state.registry.any fun r => r.module == name with
  | true =>
      rw [there] at asked
      refine Recorded.abides_of_not_starts runner (fun _ => rfl)
        (by simp [Recorded.starts, there]) ?_
      rw [Recorded.make, left, asked]
      rfl
  | false =>
      rw [there] at asked
      refine Recorded.abides_of_run runner (fun _ => rfl) (by simp [Recorded.starts, there]) ?_
      rw [Recorded.make, left, asked]
      exact run_bind_snd _ _ (fun _ _ => rfl) talk

theorem abides_writeHelp (command path : String) (width : Int) (talk : Talk (Shell σ)) :
    (Recorded.writeHelp command path width).Abides runner talk := by
  have left := run_bind_snd ((powerShell runner).writeHelp command path width)
    (fun _ => pure ()) (fun _ _ => rfl) talk
  have asked : ((powerShell runner).writeHelp command path width).run talk =
      (if !Text.isWritable width then throw (.number .tooLarge) else
        run runner (.writeHelp command path width) >>= fun printed => pure printed.2 :
          Call (Shell σ) HelpFile).run talk := by
    cases writable : Text.isWritable width <;> simp [powerShell, writable]
  have starts : (Recorded.writeHelp command path width).starts talk.state.registry =
      Text.isWritable width := rfl
  cases writable : Text.isWritable width with
  | false =>
      rw [writable] at asked starts
      refine Recorded.abides_of_not_starts runner (fun _ => rfl) starts ?_
      rw [Recorded.make, left, asked]
      rfl
  | true =>
      rw [writable] at asked starts
      refine Recorded.abides_of_run runner (fun _ => rfl) starts ?_
      rw [Recorded.make, left, asked]
      exact run_bind_snd _ _ (fun _ _ => rfl) talk

theorem abides_reloadModule (module path : String) (talk : Talk (Shell σ)) :
    (Recorded.reloadModule module path).Abides runner talk := by
  obtain ⟨outcome, next, log, ran⟩ := exists_of_run runner (.importModule path)
    { talk with state := { talk.state with registry := unregister module talk.state.registry } }
  have begun : ((Recorded.reloadModule module path).make (powerShell runner)).run talk =
      (run runner (.importModule path) >>= fun _ => setRegistry (· ++ [⟨module, path⟩]) >>= fun _ =>
        note .info ("Reloaded module " ++ module ++ " from " ++ path) :
          Call (Shell σ) Unit).run { talk with state :=
            { talk.state with registry := unregister module talk.state.registry } } := rfl
  have launches : (Recorded.reloadModule module path).launches talk.state.executable
      talk.state.timeout talk.state.registry = [⟨[talk.state.executable, "-NoProfile",
        "-NonInteractive", "-Command", fullScript
          ((unregister module talk.state.registry).map (·.path)) (.importModule path)],
        talk.state.timeout⟩] := by
    rw [Recorded.launches_eq]
    rfl
  rw [Recorded.Abides, begun, run_bind, ran]
  cases outcome with
  | ok printed => exact ⟨rfl, rfl, rfl, by rw [launches]; rfl⟩
  | error fault => exact ⟨rfl, rfl, (List.append_nil _).symm, by rw [launches]; rfl⟩

/-- Every call does to a shell what it is to do. -/
theorem Recorded.abides (call : Recorded) (talk : Talk (Shell σ)) : call.Abides runner talk := by
  cases call with
  | commandExists name =>
      refine abides_of_run runner (fun _ => rfl) rfl ?_
      exact (run_bind_snd _ _ (fun _ _ => rfl) talk).trans (run_bind_snd _ _ (fun _ _ => rfl) talk)
  | moduleExists name => exact abides_moduleExists runner name talk
  | moduleCommands module =>
      refine abides_of_run runner (fun _ => rfl) rfl ?_
      exact (run_bind_snd _ _ (fun _ _ => rfl) talk).trans (run_bind_snd _ _ (fun _ _ => rfl) talk)
  | writeHelp command path width => exact abides_writeHelp runner command path width talk
  | reloadModule module path => exact abides_reloadModule runner module path talk

/-- Calls leave the executable and the time limit alone, and the registry follows their history. -/
theorem registry_of_converse (talk : Talk (Shell σ)) (past : List Event)
    (same : talk.state.registry = registered past) (calls : List Recorded) :
    (converse (powerShell runner) calls talk).2.state.executable = talk.state.executable ∧
      (converse (powerShell runner) calls talk).2.state.timeout = talk.state.timeout ∧
      (converse (powerShell runner) calls talk).2.state.registry =
        registered (past ++ (converse (powerShell runner) calls talk).1) := by
  induction calls generalizing talk past with
  | nil =>
      rw [converse, List.append_nil]
      exact ⟨rfl, rfl, same⟩
  | cons call calls ih =>
      have does := call.abides runner talk
      have grown : ((call.make (powerShell runner)).run talk).2.state.registry =
          registered (past ++ [⟨call, ((call.make (powerShell runner)).run talk).1.isOk⟩]) := by
        rw [does.registry, same, registered_concat]
      obtain ⟨executable, timeout, registry⟩ := ih _ _ grown
      rw [converse]
      dsimp only
      rw [List.append_cons]
      exact ⟨executable.trans does.executable, timeout.trans does.timeout, registry⟩

end PowerShell

/-- Whatever has been called on a new host, the registered modules are those whose last reload has
returned, each once and in the order of these reloads, and only a reload changes them.  A call
starts at most one process, which imports them first, but for one that is being reloaded, and a
module is known to exist without a process exactly when it is registered. -/
theorem registry_follows_history (runner : Launch → σ → Outcome × σ) (executable : String)
    (timeout : Int) (state : σ) (log : List Note) (calls : List Recorded) (call : Recorded) :
    let made := converse (powerShell runner) calls ⟨{ executable, timeout, runner := state }, log⟩
    let next := (call.make (powerShell runner)).run made.2
    let registry := made.2.state.registry
    registry = registered made.1 ∧ (registry.map Registration.module).Nodup ∧
      (∀ module path, ⟨module, path⟩ ∈ registry ↔ ∃ before after,
        made.1 = before ++ ⟨.reloadModule module path, true⟩ :: after ∧
          ∀ event ∈ after, event.call.reloads module = false) ∧
      next.2.state.registry = Event.register ⟨call, next.1.isOk⟩ registry ∧
      next.2.state.launches =
        made.2.state.launches ++ call.launches executable timeout registry ∧
      ∀ module, call = .moduleExists module →
        (next.2.state.launches = made.2.state.launches ↔
          ∃ path, ⟨module, path⟩ ∈ registry) := by
  intro made next registry
  obtain ⟨sameExecutable, sameTimeout, follows⟩ := registry_of_converse runner
    ⟨{ executable, timeout, runner := state }, log⟩ [] rfl calls
  have same : registry = registered made.1 := follows
  have does := call.abides runner made.2
  have launches : next.2.state.launches =
      made.2.state.launches ++ call.launches executable timeout registry := by
    rw [does.launches, show made.2.state.executable = executable from sameExecutable,
      show made.2.state.timeout = timeout from sameTimeout]
  refine ⟨same, ?_, ?_, does.registry, launches, ?_⟩
  · rw [same]
    exact nodup_registered made.1
  · intro module path
    rw [same]
    exact mem_registered_iff
  · rintro module rfl
    rw [launches, List.append_right_eq_self, launches_eq_nil_iff, starts_moduleExists_eq_false_iff]

end CommandDocs.Host

import CommandDocs.Host.Catalogue

/-!
# What hosts answer

A host is asked again and again, and its state changes on the way.  What holds of the state for
good is what makes its answers the same each time, or keeps it from breaking down.
-/

namespace CommandDocs.Host

variable {η : Type}

/-- What holds of the state of a host and goes on to hold whatever the host is asked in a batch. -/
structure Keeps (host : Host η) (settled : η → Prop) : Prop where
  commandExists : ∀ name (talk : Talk η), settled talk.state →
    settled ((host.commandExists name).run talk).2.state
  moduleExists : ∀ name (talk : Talk η), settled talk.state →
    settled ((host.moduleExists name).run talk).2.state
  moduleCommands : ∀ name (talk : Talk η), settled talk.state →
    settled ((host.moduleCommands name).run talk).2.state
  writeHelp : ∀ command path width (talk : Talk η), settled talk.state →
    settled ((host.writeHelp command path width).run talk).2.state

/-- A host whose help depends on the command and the width alone, as long as it is settled. -/
structure Answers (host : Host η) (settled : η → Prop)
    (answer : String → Int → Except Fault HelpFile) : Prop where
  keeps : host.Keeps settled
  reply : ∀ command path width (talk : Talk η), settled talk.state →
    ((host.writeHelp command path width).run talk).1 = answer command width

def helpBytes : Except Fault HelpFile → Option (List UInt8)
  | .ok .untouched => some []
  | .ok (.written bytes) => some bytes
  | .ok .removed => none
  | .error _ => none

/-- A host whose failures to print help are all its own reports. -/
structure IsHonest (host : Host η) (settled : η → Prop) : Prop where
  keeps : host.Keeps settled
  reports : ∀ command path width (talk : Talk η) fault, settled talk.state →
    ((host.writeHelp command path width).run talk).1 = .error fault → fault.isHostError = true

/-! ## The catalogue -/

def catalogueAnswer (help : List (String × HelpEntry)) (command : String) (_ : Int) :
    Except Fault HelpFile :=
  match help.lookup command with
  | none => .error (.reported ("Get-Help failed for " ++ command))
  | some (.fails message) => .error (.reported message)
  | some (.crashes message) => .error (.crashed message)
  | some .removesFile => .ok .removed
  | some (.text bytes) => .ok (.written bytes)

def Catalogue.recorded (call : Recorded) (talk : Talk Catalogue) :
    Talk Catalogue :=
  { talk with state := { talk.state with calls := talk.state.calls ++ [call] } }

/-- A host that is up goes on after a call has been recorded. -/
theorem Catalogue.run_record {α : Type} {talk : Talk Catalogue}
    (up : talk.state.down = none) (call : Recorded)
    (next : Talk Catalogue → Call Catalogue α) :
    (record call >>= fun _ => get >>= next).run talk =
      (next (recorded call talk)).run (recorded call talk) := by
  obtain ⟨⟨modules, help, down, fails, calls⟩, log⟩ := talk
  cases up
  rfl

theorem run_writeHelp_catalogue {talk : Talk Catalogue} (up : talk.state.down = none)
    (command path : String) (width : Int) :
    (catalogue.writeHelp command path width).run talk =
      (catalogueAnswer talk.state.help command width,
        Catalogue.recorded (.writeHelp command path width) talk) := by
  refine (Catalogue.run_record up _ _).trans ?_
  dsimp only [Catalogue.recorded, catalogueAnswer]
  cases talk.state.help.lookup command with
  | none => rfl
  | some entry => cases entry <;> rfl

/-- A catalogue whose host is up gives the same help again and again. -/
theorem answers_catalogue (help : List (String × HelpEntry)) :
    catalogue.Answers (fun c => c.help = help ∧ c.down = none)
      (catalogueAnswer help) where
  keeps := {
    commandExists := by
      rintro name ⟨⟨modules, found, down, fails, calls⟩, log⟩ ⟨rfl, rfl⟩
      exact ⟨rfl, rfl⟩
    moduleExists := by
      rintro name ⟨⟨modules, found, down, fails, calls⟩, log⟩ ⟨rfl, rfl⟩
      exact ⟨rfl, rfl⟩
    moduleCommands := by
      rintro name ⟨⟨modules, found, down, fails, calls⟩, log⟩ ⟨rfl, rfl⟩
      exact ⟨rfl, rfl⟩
    writeHelp := by
      rintro command path width talk ⟨same, up⟩
      rw [run_writeHelp_catalogue up]
      exact ⟨same, up⟩
  }
  reply := by
    rintro command path width talk ⟨rfl, up⟩
    rw [run_writeHelp_catalogue up]

theorem isHonest_catalogue {help : List (String × HelpEntry)}
    (calm : ∀ command message, help.lookup command ≠ some (.crashes message)) :
    catalogue.IsHonest fun c => c.help = help ∧ c.down = none where
  keeps := (answers_catalogue help).keeps
  reports := by
    intro command path width talk fault start failed
    rw [(answers_catalogue help).reply command path width talk start, catalogueAnswer] at failed
    split at failed
    · cases failed
      rfl
    · cases failed
      rfl
    · rename_i crashed
      exact absurd crashed (calm command _)
    · cases failed
    · cases failed

end CommandDocs.Host

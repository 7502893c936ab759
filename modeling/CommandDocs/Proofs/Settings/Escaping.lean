import CommandDocs.Proofs.Settings.Finding
import CommandDocs.Proofs.Text.Documents

/-!
# Failures that come out of reading settings

Reading settings and templates reports what the system refuses, what is no TOML and what has the
wrong type.  Three kinds of failure come out as they are: a name for which there is no path, bytes
that are no text, and a number of too many digits.
-/

namespace CommandDocs.Settings

open Files (Path Bytes Location Store)
open Text (IsText encodeText decodeText)

variable {η α β : Type}

/-! ## What comes out of an activity -/

/-- Whether an outcome is a failure that is no fault of the settings. -/
def Escapes (outcome : Except Failure α) : Prop :=
  ∃ failure, outcome = .error failure ∧ ∀ fault, failure ≠ .settings fault

theorem not_escapes_ok (value : α) : ¬Escapes (.ok value : Except Failure α) :=
  by rintro ⟨_, ⟨⟩, _⟩

theorem escapes_error_iff {failure : Failure} :
    Escapes (.error failure : Except Failure α) ↔ ∀ fault, failure ≠ .settings fault := by
  constructor
  · rintro ⟨_, ⟨⟩, foreign⟩
    exact foreign
  · exact fun foreign => ⟨failure, rfl, foreign⟩

theorem not_escapes_settings (fault : Fault) :
    ¬Escapes (.error (.settings fault) : Except Failure α) :=
  fun escapes => escapes_error_iff.mp escapes fault rfl

theorem escapes_file (fault : Files.Fault) : Escapes (.error (.file fault) : Except Failure α) :=
  escapes_error_iff.mpr (by rintro _ ⟨⟩)

theorem escapes_decoding (fault : Text.DecodeFault) :
    Escapes (.error (.decoding fault) : Except Failure α) :=
  escapes_error_iff.mpr (by rintro _ ⟨⟩)

theorem escapes_number (fault : Text.NumberFault) :
    Escapes (.error (.number fault) : Except Failure α) :=
  escapes_error_iff.mpr (by rintro _ ⟨⟩)

theorem not_escapes_mapError (outcome : Except Fault α) :
    ¬Escapes (outcome.mapError .settings) := by
  cases outcome with
  | ok value => exact not_escapes_ok value
  | error fault => exact not_escapes_settings fault

/-! ## Tables and templates -/

/-- Whether bytes are no text, or that of a table with a number of too many digits. -/
def IsAlien (bytes : Bytes) : Prop :=
  ¬IsText bytes ∨
    ∃ text fault, bytes = encodeText text ∧ Toml.readTable text = .error (.number fault)

theorem isAlien_encodeText_iff {text : String} :
    IsAlien (encodeText text) ↔ ∃ fault, Toml.readTable text = .error (.number fault) := by
  constructor
  · rintro (noText | ⟨other, fault, same, failed⟩)
    · exact absurd ⟨text, rfl⟩ noText
    · have decoded := Text.decodeText_encodeText text
      rw [same, Text.decodeText_encodeText] at decoded
      exact ⟨fault, Except.ok.inj decoded ▸ failed⟩
  · rintro ⟨fault, failed⟩
    exact .inr ⟨text, fault, rfl, failed⟩

theorem escapes_tableOf_iff (bytes : Bytes) : Escapes (tableOf bytes) ↔ IsAlien bytes := by
  rw [tableOf]
  cases decoded : decodeText bytes with
  | error fault =>
      have noText : ¬IsText bytes := by
        rw [← Text.exists_decodeText_eq_ok_iff, decoded]
        rintro ⟨_, ⟨⟩⟩
      exact ⟨fun _ => .inl noText, fun _ => escapes_decoding fault⟩
  | ok text =>
      obtain rfl : bytes = encodeText text := Text.decodeText_eq_ok_iff.mp decoded
      rw [isAlien_encodeText_iff]
      dsimp only
      cases Toml.readTable text with
      | ok entries => exact ⟨fun escapes => absurd escapes (not_escapes_ok _), by rintro ⟨_, ⟨⟩⟩⟩
      | error fault =>
          cases fault with
          | badSyntax =>
              exact ⟨fun escapes => absurd escapes (not_escapes_settings _), by rintro ⟨_, ⟨⟩⟩⟩
          | number fault => exact ⟨fun _ => ⟨fault, rfl⟩, fun _ => escapes_number fault⟩

theorem escapes_templateText_iff (bytes : Bytes) :
    Escapes (templateText bytes) ↔ ¬IsText bytes := by
  rw [← Text.exists_decodeText_eq_ok_iff, templateText]
  cases decodeText bytes with
  | error fault => exact ⟨fun _ => by rintro ⟨_, ⟨⟩⟩, fun _ => escapes_decoding fault⟩
  | ok text =>
      exact ⟨fun escapes => absurd escapes (not_escapes_ok _),
        fun noText => absurd ⟨text, rfl⟩ noText⟩

/-! ## Places -/

/-- Whether a path opens with a tilde that stands for no home directory. -/
def IsStrange (homes : Homes) (p : Path) : Prop :=
  p.start = .here ∧ ∃ part rest name, p.parts = part :: rest ∧ part.toList = '~' :: name ∧
    (part.contains '\x00' = true ∨ homes.find? (String.ofList name) = none)

def HoldsNull (p : Path) : Prop :=
  ∃ part ∈ p.parts, part.contains '\x00' = true

theorem any_null_eq_true_iff {p : Path} :
    (p.parts.any fun part => part.contains '\x00') = true ↔ HoldsNull p :=
  List.any_eq_true

/-- Whether a text names no place: it opens with a tilde that stands for no home directory, or it
holds a null byte. -/
def IsMisnamed (homes : Homes) (text : String) : Prop :=
  IsStrange homes (.ofText text) ∨ ∃ p, homed homes (.ofText text) = .ok p ∧ HoldsNull p

theorem isStrange_iff {homes : Homes} {p : Path} :
    IsStrange homes p ↔ ∃ failure, homed homes p = .error failure := by
  constructor
  · rintro ⟨start, part, rest, name, parts, tilde, null | unknown⟩
    · simp [homed, start, parts, tilde, null]
    · cases null : part.contains '\x00' <;> simp [homed, start, parts, tilde, null, unknown]
  · rintro ⟨failure, lost⟩
    unfold homed at lost
    split at lost
    · rename_i part rest start parts
      split at lost
      · rename_i name tilde
        refine ⟨start, part, rest, name, parts, tilde, ?_⟩
        split at lost
        · rename_i null
          exact .inl null
        · split at lost
          · cases lost
          · rename_i unknown
            exact .inr unknown
      · cases lost
    · cases lost

theorem homed_ne_settings {homes : Homes} {p : Path} {failure : Failure}
    (strange : homed homes p = .error failure) (fault : Fault) : failure ≠ .settings fault := by
  unfold homed at strange
  split at strange
  · split at strange
    · split at strange
      · cases strange
        rintro ⟨⟩
      · split at strange
        · cases strange
        · cases strange
          rintro ⟨⟩
    · cases strange
  · cases strange

/-- The absolute form of a path from a working directory. -/
def resolved (here : Location) (p : Path) : Except Failure Path :=
  if p.parts.any fun part => part.contains '\x00' then .error (.file ⟨.nullByte, p.text⟩)
  else .ok (absolute (climb ((if p.start == .here then here else []) ++ p.parts)))

/-- The absolute form of a path that is named. -/
def sought (w : Workspace η) (text : String) : Except Failure Path :=
  (homed w.home (.ofText text)).bind (resolved w.here)

theorem sought_eq_error {w : Workspace η} {text : String} {failure : Failure}
    (lost : sought w text = .error failure) :
    IsMisnamed w.home text ∧ ∀ fault, failure ≠ .settings fault := by
  rw [sought] at lost
  cases homely : homed w.home (.ofText text) with
  | error strange =>
      rw [homely] at lost
      cases lost
      exact ⟨.inl (isStrange_iff.mpr ⟨_, homely⟩), homed_ne_settings homely⟩
  | ok p =>
      rw [homely] at lost
      change resolved w.here p = .error failure at lost
      unfold resolved at lost
      split at lost
      · rename_i null
        cases lost
        exact ⟨.inr ⟨p, homely, any_null_eq_true_iff.mp null⟩, by rintro _ ⟨⟩⟩
      · cases lost

theorem not_isMisnamed_of_sought {w : Workspace η} {text : String} {q : Path}
    (found : sought w text = .ok q) : ¬IsMisnamed w.home text := by
  rw [sought] at found
  rintro (strange | ⟨p, homely, null⟩)
  · obtain ⟨failure, lost⟩ := isStrange_iff.mp strange
    rw [lost] at found
    cases found
  · rw [homely] at found
    change resolved w.here p = .ok q at found
    unfold resolved at found
    rw [if_pos (any_null_eq_true_iff.mpr null)] at found
    cases found

theorem run_resolvePath_eq (p : Path) (w : Workspace η) :
    (resolvePath p).run w = (resolved w.here p, w) := by
  unfold resolvePath resolved
  cases p.parts.any fun part => part.contains '\x00' with
  | true => rfl
  | false => cases p.start <;> rfl

/-- The place of the settings when none is named: the local one unless nothing is there, and else
the one in the home directory. -/
def defaultPlace (w : Workspace η) : Path :=
  if w.store.exists? w.here ((absolute w.here).child "helpdoc.toml") = .ok false then
    (absolute w.home.own).child ".helpdoc/config.toml"
  else (absolute w.here).child "helpdoc.toml"

/-- The place of the settings: the absolute form of a path that is named, or the default one. -/
def placeOf (w : Workspace η) : Option String → Except Failure Path
  | none => .ok (defaultPlace w)
  | some text => if text = "" then .ok (defaultPlace w) else sought w text

/-- Whether something other than a fault of the settings comes out of loading what is at a place:
the path is too long to be asked for, or what is there is alien. -/
def Spoils (w : Workspace η) (p : Path) : Prop :=
  w.store.look w.here p = .error .nameTooLong ∨
    ∃ bytes, w.store.read w.here p = .ok bytes ∧ IsAlien bytes

theorem exists?_of_look_ok {w : Workspace η} {p : Path} {entry : Files.Entry}
    (there : w.store.look w.here p = .ok entry) : w.store.exists? w.here p = .ok true := by
  rw [Store.exists?, Store.probe, there]
  rfl

theorem exists?_of_look_error {w : Workspace η} {p : Path} {cause : Files.Cause}
    (lost : w.store.look w.here p = .error cause) (short : cause ≠ .nameTooLong) :
    w.store.exists? w.here p = .ok false := by
  rw [Store.exists?, Store.probe, lost]
  cases cause <;> first | rfl | exact absurd rfl short

theorem exists?_of_tooLong {w : Workspace η} {p : Path}
    (long : w.store.look w.here p = .error .nameTooLong) :
    w.store.exists? w.here p = .error ⟨.nameTooLong, p.text⟩ := by
  rw [Store.exists?, Store.probe, long]
  rfl

/-- Asking for a path answers, or the path is too long. -/
theorem run_exists?_cases (w : Workspace η) (p : Path) :
    (w.store.look w.here p = .error .nameTooLong ∧
        (Act.exists? p).run w = (.error (.file ⟨.nameTooLong, p.text⟩), w)) ∨
      (w.store.look w.here p ≠ .error .nameTooLong ∧ ∃ there,
        w.store.exists? w.here p = .ok there ∧ (Act.exists? p).run w = (.ok there, w)) := by
  have asked := Act.run_inspect (fun store here => store.exists? here p) w
  cases looked : w.store.look w.here p with
  | ok entry =>
      rw [exists?_of_look_ok looked] at asked
      exact .inr ⟨by rintro ⟨⟩, true, exists?_of_look_ok looked, asked⟩
  | error cause =>
      by_cases long : cause = .nameTooLong
      · subst long
        rw [exists?_of_tooLong looked] at asked
        exact .inl ⟨rfl, asked⟩
      · rw [exists?_of_look_error looked long] at asked
        exact .inr ⟨fun same => long (Except.error.inj same), false,
          exists?_of_look_error looked long, asked⟩

/-- Nothing spoils a place where there is nothing. -/
theorem not_spoils_of_vacant {w : Workspace η} {p : Path}
    (vacant : w.store.exists? w.here p = .ok false) : ¬Spoils w p := by
  rintro (long | ⟨bytes, held, _⟩)
  · rw [exists?_of_tooLong long] at vacant
    cases vacant
  · rw [Store.exists?_of_read held] at vacant
    cases vacant

/-- Following parts never comes upon a null byte. -/
theorem walk_ne_nullByte (s : Store) (here : Location) (parts : List String) :
    s.walk here parts ≠ .error .nullByte := by
  fun_induction Store.walk s here parts with
  | case1 => rintro ⟨⟩
  | case2 => rintro ⟨⟩
  | case3 => rintro ⟨⟩
  | case4 _ _ _ _ _ ih => exact ih
  | case5 _ _ _ _ _ _ ih => exact ih
  | case6 => rintro ⟨⟩
  | case7 _ _ _ _ _ _ _ ih => exact ih

theorem look_eq_nullByte_iff {w : Workspace η} {p : Path} :
    w.store.look w.here p = .error .nullByte ↔
      (p.parts.any fun part => part.contains '\x00') = true := by
  rw [Store.look, Store.locate]
  cases null : p.parts.any fun part => part.contains '\x00' with
  | true => exact ⟨fun _ => rfl, fun _ => rfl⟩
  | false =>
      refine ⟨fun found => ?_, by rintro ⟨⟩⟩
      rw [if_neg Bool.false_ne_true] at found
      split at found
      · cases found
      · cases walked : w.store.walk (if p.start == .here then w.here else []) p.parts with
        | error cause =>
            rw [walked] at found
            cases found
            exact absurd walked (walk_ne_nullByte _ _ _)
        | ok location =>
            rw [walked] at found
            cases standing : w.store.at? location <;>
              simp [bind, Except.bind, standing] at found

/-- The system refuses every path that cannot be read, but for one with a null byte. -/
theorem isRefusal_eq_false_iff {w : Workspace η} {p : Path} {fault : Files.Fault}
    (failed : w.store.read w.here p = .error fault) :
    fault.isRefusal = false ↔ (p.parts.any fun part => part.contains '\x00') = true := by
  rw [← look_eq_nullByte_iff]
  rw [Store.read] at failed
  cases looked : w.store.look w.here p with
  | ok entry =>
      rw [looked] at failed
      cases entry <;> cases failed
      exact ⟨by rintro ⟨⟩, by rintro ⟨⟩⟩
  | error cause =>
      rw [looked] at failed
      cases failed
      cases cause <;> simp [Files.Fault.isRefusal]

/-! ## Loading -/

def loadFrom (p : Path) : Act η Settings := do
  if ← Act.exists? p then
    let w ← get
    match w.store.read w.here p with
    | .error fault =>
        throw (if fault.isRefusal then .settings (.notLoaded (.file fault)) else .file fault)
    | .ok bytes =>
        let entries ← Act.ofExcept (tableOf bytes)
        Act.note .debug ("Loaded config from: " ++ p.text)
        understand entries
  else
    Act.note .debug "Config file not found, using defaults"
    return {}

theorem load_eq (named : Option String) :
    (load named : Act η Settings) = findFile named >>= loadFrom :=
  rfl

theorem run_loadFrom_of_vacant {w : Workspace η} {p : Path}
    (asked : (Act.exists? p).run w = (.ok false, w)) :
    ((loadFrom p).run w).1 = .ok {} := by
  rw [loadFrom, run_bind_of_ok asked]
  rfl

/-- What is read is understood as a table, unless it is none. -/
theorem escapes_loadFrom_of_read {w : Workspace η} {p : Path} {bytes : Bytes}
    (held : w.store.read w.here p = .ok bytes) :
    Escapes ((loadFrom p).run w).1 ↔ Escapes (tableOf bytes) := by
  rw [loadFrom, run_bind_of_ok (run_exists?_of_read held)]
  simp only [if_true]
  rw [run_bind_of_ok (Act.run_get w)]
  simp only [held]
  have told := Act.run_ofExcept (tableOf bytes) w
  cases read : tableOf bytes with
  | error failure =>
      rw [read] at told
      rw [run_bind_of_error told]
      exact escapes_error_iff.trans escapes_error_iff.symm
  | ok entries =>
      rw [read] at told
      rw [run_bind_of_ok told, run_bind_of_ok (Act.run_note _ _ w), run_understand]
      exact ⟨fun escapes => absurd escapes (not_escapes_mapError _),
        fun escapes => absurd escapes (not_escapes_ok _)⟩

theorem escapes_loadFrom_iff (w : Workspace η) (p : Path) :
    Escapes ((loadFrom p).run w).1 ↔ Spoils w p := by
  rcases run_exists?_cases w p with ⟨long, asked⟩ | ⟨short, there, exist, asked⟩
  · rw [loadFrom, run_bind_of_error asked]
    exact ⟨fun _ => .inl long, fun _ => escapes_file _⟩
  · cases there with
    | false =>
        rw [run_loadFrom_of_vacant asked]
        exact ⟨fun escapes => absurd escapes (not_escapes_ok _),
          fun spoils => absurd spoils (not_spoils_of_vacant exist)⟩
    | true =>
        cases held : w.store.read w.here p with
        | ok bytes =>
            rw [escapes_loadFrom_of_read held, escapes_tableOf_iff]
            refine ⟨fun alien => .inr ⟨bytes, held, alien⟩, ?_⟩
            rintro (long | ⟨_, same, alien⟩)
            · exact absurd long short
            · rw [held] at same
              cases same
              exact alien
        | error fault =>
            have refused : fault.isRefusal = true := by
              rw [← Bool.not_eq_false, isRefusal_eq_false_iff held, ← look_eq_nullByte_iff]
              intro null
              rw [exists?_of_look_error null (by rintro ⟨⟩)] at exist
              cases exist
            rw [loadFrom, run_bind_of_ok asked]
            simp only [if_true]
            rw [run_bind_of_ok (Act.run_get w)]
            simp only [held, refused, if_true]
            refine ⟨fun escapes => absurd escapes (not_escapes_settings _), ?_⟩
            rintro (long | ⟨_, same, _⟩)
            · exact absurd long short
            · rw [held] at same
              cases same

theorem run_findDefault (w : Workspace η) :
    (findFile.findDefault : Act η Path).run w =
      (((w.store.exists? w.here ((absolute w.here).child "helpdoc.toml")).mapError .file).map
        fun there => if there then (absolute w.here).child "helpdoc.toml"
          else (absolute w.home.own).child ".helpdoc/config.toml", w) := by
  have asked := Act.run_inspect
    (fun store here => store.exists? here ((absolute w.here).child "helpdoc.toml")) w
  unfold findFile.findDefault
  rw [run_bind_of_ok (Act.run_get w)]
  cases exist : w.store.exists? w.here ((absolute w.here).child "helpdoc.toml") with
  | error fault =>
      rw [exist] at asked
      exact run_bind_of_error asked
  | ok there =>
      rw [exist] at asked
      refine (run_bind_of_ok asked).trans ?_
      cases there <;> rfl

/-- What is found when no settings are named is loaded from the default place. -/
theorem escapes_findDefault_iff (w : Workspace η) :
    Escapes ((findFile.findDefault >>= loadFrom : Act η Settings).run w).1 ↔
      Spoils w (defaultPlace w) := by
  have found := run_findDefault w
  rcases run_exists?_cases w ((absolute w.here).child "helpdoc.toml") with
    ⟨long, _⟩ | ⟨_, there, exist, _⟩
  · rw [exists?_of_tooLong long] at found
    rw [run_bind_of_error found, defaultPlace, exists?_of_tooLong long, if_neg (by rintro ⟨⟩)]
    exact ⟨fun _ => .inl long, fun _ => escapes_file _⟩
  · rw [exist] at found
    rw [run_bind_of_ok found, escapes_loadFrom_iff, defaultPlace, exist]
    cases there <;> exact Iff.rfl

section Named

variable {w : Workspace η} {text : String} (shown : text ≠ "")
include shown

theorem findFile_eq :
    (findFile (some text) : Act η Path) = (do
      let p ← resolvePath (← expandHome (.ofText text))
      Act.require (← Act.exists? p) (.settings (.notFound p.text))
      return p) := by
  have named : (text == "") = false := by simpa using shown
  unfold findFile
  simp only [named, Bool.false_eq_true, if_false]

theorem run_findFile_of_misnamed {failure : Failure} (lost : sought w text = .error failure) :
    (findFile (some text)).run w = (.error failure, w) := by
  have expanded := run_expandHome (.ofText text) w
  rw [findFile_eq shown]
  rw [sought] at lost
  cases homely : homed w.home (.ofText text) with
  | error strange =>
      rw [homely] at lost expanded
      cases lost
      exact run_bind_of_error expanded
  | ok p =>
      rw [homely] at lost expanded
      have resolution := run_resolvePath_eq p w
      rw [show resolved w.here p = .error failure from lost] at resolution
      rw [run_bind_of_ok expanded]
      exact run_bind_of_error resolution

theorem run_findFile_of_sought {q : Path} (found : sought w text = .ok q) :
    (findFile (some text)).run w = (do
      Act.require (← Act.exists? q) (.settings (.notFound q.text))
      return q : Act η Path).run w := by
  have expanded := run_expandHome (.ofText text) w
  rw [findFile_eq shown]
  rw [sought] at found
  cases homely : homed w.home (.ofText text) with
  | error strange =>
      rw [homely] at found
      cases found
  | ok p =>
      rw [homely] at found expanded
      have resolution := run_resolvePath_eq p w
      rw [show resolved w.here p = .ok q from found] at resolution
      rw [run_bind_of_ok expanded, run_bind_of_ok resolution]

/-- A file that is named is loaded from the absolute form of its path. -/
theorem escapes_load_of_sought {q : Path} (found : sought w text = .ok q) :
    Escapes ((load (some text)).run w).1 ↔ Spoils w q := by
  rw [load_eq]
  rcases run_exists?_cases w q with ⟨long, asked⟩ | ⟨_, there, exist, asked⟩
  · have failed : (findFile (some text)).run w = (.error (.file ⟨.nameTooLong, q.text⟩), w) := by
      rw [run_findFile_of_sought shown found]
      exact run_bind_of_error asked
    rw [run_bind_of_error failed]
    exact ⟨fun _ => .inl long, fun _ => escapes_file _⟩
  · cases there with
    | false =>
        have failed : (findFile (some text)).run w =
            (.error (.settings (.notFound q.text)), w) := by
          rw [run_findFile_of_sought shown found, run_bind_of_ok asked]
          rfl
        rw [run_bind_of_error failed]
        exact ⟨fun escapes => absurd escapes (not_escapes_settings _),
          fun spoils => absurd spoils (not_spoils_of_vacant exist)⟩
    | true =>
        have reached : (findFile (some text)).run w = (.ok q, w) := by
          rw [run_findFile_of_sought shown found, run_bind_of_ok asked]
          rfl
        rw [run_bind_of_ok reached, escapes_loadFrom_iff]

end Named

theorem escapes_load_of_unnamed {w : Workspace η} {named : Option String}
    (unnamed : named = none ∨ named = some "") :
    Escapes ((load named).run w).1 ↔ Spoils w (defaultPlace w) := by
  rcases unnamed with rfl | rfl <;> exact escapes_findDefault_iff w

/-- What comes out of loading settings, but for settings and faults of the settings, is about a name
that names no place, or about a place that spoils it. -/
theorem escapes_load_iff (named : Option String) (w : Workspace η) :
    Escapes ((load named).run w).1 ↔
      (∃ text, named = some text ∧ text ≠ "" ∧ IsMisnamed w.home text) ∨
        ∃ p, placeOf w named = .ok p ∧ Spoils w p := by
  by_cases unnamed : named = none ∨ named = some ""
  · have place : placeOf w named = .ok (defaultPlace w) := by
      rcases unnamed with rfl | rfl <;> rfl
    rw [escapes_load_of_unnamed unnamed, place]
    refine ⟨fun spoils => .inr ⟨_, rfl, spoils⟩, ?_⟩
    rintro (⟨text, rfl, shown, _⟩ | ⟨_, ⟨⟩, spoils⟩)
    · rcases unnamed with none | empty
      · cases none
      · exact absurd (Option.some.inj empty) shown
    · exact spoils
  · obtain ⟨present, filled⟩ := not_or.mp unnamed
    obtain ⟨text, rfl⟩ := Option.ne_none_iff_exists'.mp present
    have shown : text ≠ "" := fun empty => filled (congrArg some empty)
    rw [placeOf, if_neg shown]
    cases found : sought w text with
    | error failure =>
        obtain ⟨misnamed, foreign⟩ := sought_eq_error found
        rw [load_eq, run_bind_of_error (run_findFile_of_misnamed shown found)]
        exact ⟨fun _ => .inl ⟨text, rfl, shown, misnamed⟩, fun _ => escapes_error_iff.mpr foreign⟩
    | ok q =>
        rw [escapes_load_of_sought shown found]
        refine ⟨fun spoils => .inr ⟨q, rfl, spoils⟩, ?_⟩
        rintro (⟨_, ⟨⟩, _, misnamed⟩ | ⟨_, ⟨⟩, spoils⟩)
        · exact absurd misnamed (not_isMisnamed_of_sought found)
        · exact spoils

/-! ## Templates -/

theorem not_escapes_readTemplate_of_unset {s : Settings} {which : Template} {w : Workspace η}
    (unset : s.templatePath? which = none ∨ s.templatePath? which = some "") :
    ¬Escapes ((readTemplate s which).run w).1 := by
  unfold readTemplate
  rcases unset with none | empty
  · rw [none]
    exact not_escapes_ok ""
  · rw [empty]
    exact not_escapes_ok ""

section Named

variable {s : Settings} {which : Template} {w : Workspace η} {text : String}
  (given : s.templatePath? which = some text) (shown : text ≠ "")
include given shown

theorem readTemplate_eq :
    (readTemplate s which : Act η String) = (do
      let p ← expandHome (.ofText text)
      let w ← get
      match w.store.read w.here p with
      | .ok bytes => Act.ofExcept (templateText bytes)
      | .error fault =>
          throw (if fault.isRefusal then
              .settings (.unreadableTemplate which.name text fault)
            else .file fault)) := by
  unfold readTemplate
  rw [given]
  split
  · rename_i none
    cases none
  · rename_i empty
    exact absurd (Option.some.inj empty) shown
  · rename_i same
    cases same
    rfl

theorem escapes_readTemplate_of_homed {p : Path} (homely : homed w.home (.ofText text) = .ok p) :
    Escapes ((readTemplate s which).run w).1 ↔
      HoldsNull p ∨ ∃ bytes, w.store.read w.here p = .ok bytes ∧ ¬IsText bytes := by
  have expanded := run_expandHome (.ofText text) w
  rw [homely] at expanded
  rw [readTemplate_eq given shown, run_bind_of_ok expanded, run_bind_of_ok (Act.run_get w)]
  cases held : w.store.read w.here p with
  | ok bytes =>
      dsimp only
      rw [Act.run_ofExcept, escapes_templateText_iff]
      refine ⟨fun noText => .inr ⟨bytes, rfl, noText⟩, ?_⟩
      rintro (null | ⟨_, ⟨⟩, noText⟩)
      · rw [Store.read, look_eq_nullByte_iff.mpr (any_null_eq_true_iff.mpr null)] at held
        cases held
      · exact noText
  | error fault =>
      have null : fault.isRefusal = false ↔ HoldsNull p :=
        (isRefusal_eq_false_iff held).trans any_null_eq_true_iff
      dsimp only
      rw [Act.run_throw]
      cases refused : fault.isRefusal with
      | true =>
          refine ⟨fun escapes => absurd escapes (not_escapes_settings _), ?_⟩
          rintro (held | ⟨_, ⟨⟩, _⟩)
          exact absurd (refused.symm.trans (null.mpr held)) Bool.false_ne_true.symm
      | false =>
          exact ⟨fun _ => .inl (null.mp refused), fun _ => escapes_file fault⟩

end Named

/-- What comes out of reading a template, but for its text and faults of the settings, is about a
path that names no place, or about bytes that are no text. -/
theorem escapes_readTemplate_iff (s : Settings) (which : Template) (w : Workspace η) :
    Escapes ((readTemplate s which).run w).1 ↔
      ∃ text, s.templatePath? which = some text ∧ text ≠ "" ∧
        (IsMisnamed w.home text ∨ ∃ p bytes, homed w.home (.ofText text) = .ok p ∧
          w.store.read w.here p = .ok bytes ∧ ¬IsText bytes) := by
  by_cases unset : s.templatePath? which = none ∨ s.templatePath? which = some ""
  · refine ⟨fun escapes => absurd escapes (not_escapes_readTemplate_of_unset unset), ?_⟩
    rintro ⟨text, given, shown, _⟩
    rcases unset with none | empty
    · rw [none] at given
      cases given
    · rw [empty] at given
      exact absurd (Option.some.inj given).symm shown
  · obtain ⟨present, filled⟩ := not_or.mp unset
    obtain ⟨text, given⟩ := Option.ne_none_iff_exists'.mp present
    have shown : text ≠ "" := fun empty => filled (empty ▸ given)
    rw [given]
    cases homely : homed w.home (.ofText text) with
    | error failure =>
        have strange : IsStrange w.home (.ofText text) := isStrange_iff.mpr ⟨failure, homely⟩
        have expanded := run_expandHome (.ofText text) w
        rw [homely] at expanded
        rw [readTemplate_eq given shown, run_bind_of_error expanded]
        exact ⟨fun _ => ⟨text, rfl, shown, .inl (.inl strange)⟩,
          fun _ => escapes_error_iff.mpr (homed_ne_settings homely)⟩
    | ok p =>
        rw [escapes_readTemplate_of_homed given shown homely]
        constructor
        · rintro (null | ⟨bytes, held, noText⟩)
          · exact ⟨text, rfl, shown, .inl (.inr ⟨p, homely, null⟩)⟩
          · exact ⟨text, rfl, shown, .inr ⟨p, bytes, homely, held, noText⟩⟩
        · rintro ⟨_, ⟨⟩, _, (strange | ⟨_, same, null⟩) | ⟨_, bytes, same, held, noText⟩⟩
          · obtain ⟨failure, lost⟩ := isStrange_iff.mp strange
            rw [homely] at lost
            cases lost
          · rw [homely] at same
            cases same
            exact .inl null
          · rw [homely] at same
            cases same
            exact .inr ⟨bytes, held, noText⟩

/-! ## Both -/

/-- **Loading settings gives settings or fails with a fault of the settings, unless a name names no
place, a path is too long to be asked for, or what is there is no text or holds a number of too
many digits.  Reading a template gives a text or fails with a fault of the settings, unless its path
names no place or what is there is no text.**  Arrays and inline tables are read however deep they
are nested: a limit to the recursion of the reader, which some hundreds of brackets would exceed, is
no part of this. -/
theorem reading_escapes_iff (named : Option String) (w : Workspace η) (s : Settings)
    (which : Template) (v : Workspace η) :
    (Escapes ((load named).run w).1 ↔
        (∃ text, named = some text ∧ text ≠ "" ∧ IsMisnamed w.home text) ∨
          ∃ p, placeOf w named = .ok p ∧ Spoils w p) ∧
      (Escapes ((readTemplate s which).run v).1 ↔
        ∃ text, s.templatePath? which = some text ∧ text ≠ "" ∧
          (IsMisnamed v.home text ∨ ∃ p bytes, homed v.home (.ofText text) = .ok p ∧
            v.store.read v.here p = .ok bytes ∧ ¬IsText bytes)) :=
  ⟨escapes_load_iff named w, escapes_readTemplate_iff s which v⟩

def garbled : Workspace Unit where
  store := ⟨[(["c.toml"], .file [0xff])]⟩
  host := ()

/-- Bytes that are no text come out of loading as they are. -/
theorem reading_escapes_garbled : Escapes ((load (some "c.toml")).run garbled).1 := by
  refine (reading_escapes_iff (some "c.toml") garbled {} .header garbled).1.mpr (.inr ?_)
  have noText : ¬IsText [0xff] := by
    rw [← Text.exists_decodeText_eq_ok_iff]
    rintro ⟨text, decoded⟩
    have failed : (decodeText [0xff]).isOk = false := by decide +kernel
    rw [decoded] at failed
    cases failed
  have homely : homed garbled.home (.ofText "c.toml") = .ok ⟨.here, ["c.toml"]⟩ := rfl
  have clean : "c.toml".contains '\x00' = false := Store.contains_null_eq_false (by decide)
  have place : placeOf garbled (some "c.toml") = .ok (absolute ["c.toml"]) := by
    simp only [placeOf, sought, homely, Except.bind, resolved, List.any_cons, List.any_nil, clean]
    rfl
  have held : garbled.store.read garbled.here (absolute ["c.toml"]) = .ok [0xff] :=
    Store.read_eq_ok_iff.mpr
      ⟨["c.toml"], Store.locate_of_walk (by decide) (by decide) rfl, rfl⟩
  exact ⟨absolute ["c.toml"], place, .inr ⟨[0xff], held, .inl noText⟩⟩

end CommandDocs.Settings

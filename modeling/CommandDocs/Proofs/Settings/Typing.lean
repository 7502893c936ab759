import CommandDocs.Proofs.Settings.Finding
import CommandDocs.Proofs.Settings.Overriding

/-!
# Tables that settings are understood from

Every key wants a value of one kind.  A table is refused at its first entry of a wrong kind;
otherwise the settings have its values and the defaults for the other keys.  In both cases the
unknown keys that have been come to are logged, and nothing hangs on the order of the entries but
that log and which of several wrong ones is named.
-/

namespace CommandDocs.Settings

open Toml (Table find? keysOf)

variable {η : Type}

/-! ## Kinds of values -/

/-- What the value of a key has to be. -/
inductive Kind where
  | text
  | number
  | texts
  deriving DecidableEq, Repr

def Key.kind : Key → Kind
  | .helpWidth | .timeout => .number
  | .exclude | .inProgress => .texts
  | .scriptExtension | .bundleExtension | .executable | .headerTemplate | .footerTemplate
  | .docsBaseUrl => .text

/-- The values of a kind.  Truth values are no numbers, and the empty value is of no kind. -/
inductive Kind.Admits : Kind → Toml.Value → Prop
  | text (s : String) : Admits .text (.string s)
  | number (n : Int) : Admits .number (.integer n)
  | texts (items : List String) : Admits .texts (.array (items.map .string))

namespace Kind

/-- The words for a kind. -/
def words : Kind → String
  | .text => "a string"
  | .number => "an integer"
  | .texts => "a list of strings"

/-- The fault of a key whose value is not of a kind. -/
def fault : Kind → (key : String) → Fault
  | .text => .notString
  | .number => .notInteger
  | .texts => .notStrings

theorem message_fault (kind : Kind) (key : String) :
    (kind.fault key).message = "Config key '" ++ key ++ "' must be " ++ kind.words := by
  cases kind <;> rw [String.append_assoc, String.append_assoc] <;> rfl

end Kind

/-- Whether an entry has a known key and a value that is not of the kind which the key wants. -/
def IsMistyped (entry : String × Toml.Value) : Prop :=
  ∃ key : Key, key.name = entry.1 ∧ ¬key.kind.Admits entry.2

theorem isMistyped_iff {key : Key} {value : Toml.Value} :
    IsMistyped (key.name, value) ↔ ¬key.kind.Admits value := by
  constructor
  · rintro ⟨other, same, wrong⟩
    obtain rfl := Key.name_injective same
    exact wrong
  · exact fun wrong => ⟨key, rfl, wrong⟩

section Assign

variable {key : Key} {value : Toml.Value}

/-- A value of the right kind can be assigned. -/
theorem exists_assign_of_admits (right : key.kind.Admits value) (s : Settings) :
    ∃ next, s.assign key value = .ok next := by
  cases key with
  | scriptExtension | bundleExtension | executable | headerTemplate | footerTemplate
  | docsBaseUrl =>
      obtain ⟨text⟩ := right
      exact ⟨_, rfl⟩
  | helpWidth | timeout =>
      obtain ⟨n⟩ := right
      exact ⟨_, rfl⟩
  | exclude | inProgress =>
      obtain ⟨items⟩ := right
      exact ⟨_, congrArg (Except.map _) (listOf_eq_ok_iff.mpr rfl)⟩

theorem stringOf_of_not_admits (wrong : ¬Kind.text.Admits value) :
    stringOf key value = .error (.notString key.name) := by
  cases value with
  | string s => exact absurd (.text s) wrong
  | _ => rfl

theorem integerOf_of_not_admits (wrong : ¬Kind.number.Admits value) :
    integerOf key value = .error (.notInteger key.name) := by
  cases value with
  | integer n => exact absurd (.number n) wrong
  | _ => rfl

theorem listOf_of_not_admits (wrong : ¬Kind.texts.Admits value) :
    listOf key value = .error (.notStrings key.name) := by
  cases value with
  | array items =>
      cases found : strings? items with
      | none => rw [listOf, found]
      | some texts =>
          rw [strings?_eq_some_iff.mp found] at wrong
          exact absurd (.texts texts) wrong
  | _ => rfl

/-- A value of a wrong kind is refused, and the fault names the key. -/
theorem assign_of_not_admits (wrong : ¬key.kind.Admits value) (s : Settings) :
    s.assign key value = .error (key.kind.fault key.name) := by
  cases key with
  | scriptExtension | bundleExtension | executable | headerTemplate | footerTemplate
  | docsBaseUrl =>
      exact congrArg (Except.map _) (stringOf_of_not_admits wrong)
  | helpWidth | timeout => exact congrArg (Except.map _) (integerOf_of_not_admits wrong)
  | exclude | inProgress => exact congrArg (Except.map _) (listOf_of_not_admits wrong)

end Assign

/-! ## Overriding entry by entry -/

def unknownIn (entries : Table) : List String :=
  (keysOf entries).filter fun name => (Key.ofName? name).isNone

section Entry

variable {name : String} {key : Key} {value : Toml.Value} {entries : Table}

theorem unknownIn_cons_of_unknown (unknown : Key.ofName? name = none) :
    unknownIn ((name, value) :: entries) = name :: unknownIn entries := by
  simp [unknownIn, keysOf, unknown]

theorem unknownIn_cons_of_known : unknownIn ((key.name, value) :: entries) = unknownIn entries := by
  simp [unknownIn, keysOf, Key.ofName?_name]

theorem override_cons_of_unknown (unknown : Key.ofName? name = none) (s : Settings) :
    s.override ((name, value) :: entries) =
      (name :: (s.override entries).1, (s.override entries).2) := by
  simp only [override, unknown]

theorem override_cons_of_assign {s next : Settings} (assigned : s.assign key value = .ok next) :
    s.override ((key.name, value) :: entries) = next.override entries := by
  simp only [override, Key.ofName?_name, assigned]

end Entry

/-- Entries that are not mistyped are taken one after the other, and the unknown keys among them are
ignored. -/
theorem exists_override_append {before : Table} (typed : ∀ entry ∈ before, ¬IsMistyped entry)
    (s : Settings) : ∃ next : Settings, ∀ rest, s.override (before ++ rest) =
      (unknownIn before ++ (next.override rest).1, (next.override rest).2) := by
  induction before generalizing s with
  | nil => exact ⟨s, fun _ => rfl⟩
  | cons entry before ih =>
      obtain ⟨name, value⟩ := entry
      obtain ⟨own, others⟩ := List.forall_mem_cons.mp typed
      cases known : Key.ofName? name with
      | none =>
          obtain ⟨next, later⟩ := ih others s
          refine ⟨next, fun rest => ?_⟩
          rw [List.cons_append, override_cons_of_unknown known, later,
            unknownIn_cons_of_unknown known, List.cons_append]
      | some key =>
          obtain rfl := Key.name_of_ofName? known
          have right := not_not.mp (mt isMistyped_iff.mpr own)
          obtain ⟨middle, assigned⟩ := exists_assign_of_admits right s
          obtain ⟨next, later⟩ := ih others middle
          refine ⟨next, fun rest => ?_⟩
          rw [List.cons_append, override_cons_of_assign assigned, later, unknownIn_cons_of_known]

/-- A table without mistyped entries is taken. -/
theorem exists_override_of_typed {entries : Table} (typed : ∀ entry ∈ entries, ¬IsMistyped entry)
    (s : Settings) : ∃ t, s.override entries = (unknownIn entries, .ok t) := by
  obtain ⟨t, later⟩ := exists_override_append typed s
  have whole := later []
  rw [List.append_nil, override, List.append_nil] at whole
  exact ⟨t, whole⟩

/-- The first mistyped entry of a table is its fault. -/
theorem override_of_mistyped {before : Table} (typed : ∀ entry ∈ before, ¬IsMistyped entry)
    {key : Key} {value : Toml.Value} (wrong : ¬key.kind.Admits value) (later : Table)
    (s : Settings) : s.override (before ++ (key.name, value) :: later) =
      (unknownIn before, .error (key.kind.fault key.name)) := by
  obtain ⟨next, taken⟩ := exists_override_append typed s
  rw [taken, override, Key.ofName?_name]
  simp only [assign_of_not_admits wrong next, List.append_nil]

/-! ## Reordering -/

section Reordering

variable {entries others : Table} (distinct : (keysOf entries).Nodup)
include distinct

theorem find?_eq_some_iff {key : String} {value : Toml.Value} :
    find? key entries = some value ↔ (key, value) ∈ entries := by
  induction entries with
  | nil => simp [find?]
  | cons entry entries ih =>
      obtain ⟨name, first⟩ := entry
      obtain ⟨fresh, rest⟩ := List.nodup_cons.mp distinct
      by_cases same : name = key
      · subst same
        rw [Toml.find?_cons_self]
        have absent (other : Toml.Value) : (name, other) ∉ entries := fun member =>
          fresh (List.mem_map.mpr ⟨_, member, rfl⟩)
        simp [absent, eq_comm]
      · rw [Toml.find?_cons_of_ne same, ih rest]
        simp [Ne.symm same]

/-- Looking into a table without repeated keys does not depend on its order. -/
theorem find?_of_perm (same : entries.Perm others) (key : String) :
    find? key entries = find? key others := by
  refine Option.ext fun value => ?_
  rw [find?_eq_some_iff distinct, find?_eq_some_iff ((same.map Prod.fst).nodup distinct),
    same.mem_iff]

theorem toOption_override_of_perm (same : entries.Perm others) (s : Settings) :
    (s.override entries).2.toOption = (s.override others).2.toOption := by
  have taken {result : Except Fault Settings} {t : Settings} :
      result.toOption = some t ↔ result = .ok t := by
    cases result <;> simp [Except.toOption]
  refine Option.ext fun t => ?_
  rw [taken, taken, override_eq_ok_iff distinct,
    override_eq_ok_iff ((same.map Prod.fst).nodup distinct)]
  simp only [find?_of_perm distinct same]

end Reordering

/-! ## Understanding a table -/

/-- A workspace in which the unknown keys of some entries have been logged. -/
def ignoring (entries : Table) (w : Workspace η) : Workspace η :=
  { w with log := w.log ++ (unknownIn entries).map fun name =>
      ⟨.warning, "Ignoring unknown config key: " ++ name⟩ }

/-- What comes of a table.  It is refused at its first mistyped entry, once the unknown keys before
that are logged; or it has none, all its unknown keys are logged, and every known key has the value
that it is given or its default. -/
inductive Understanding (entries : Table) (w : Workspace η) :
    Except Failure Settings × Workspace η → Prop
  | refused {before later : Table} {key : Key} {value : Toml.Value}
      (split : entries = before ++ (key.name, value) :: later)
      (typed : ∀ entry ∈ before, ¬IsMistyped entry) (wrong : ¬key.kind.Admits value) :
      Understanding entries w (.error (.settings (key.kind.fault key.name)), ignoring before w)
  | taken {t : Settings} (typed : ∀ entry ∈ entries, ¬IsMistyped entry)
      (values : ∀ key : Key, (t.value? key).map Stored.toValue = (find? key.name entries).or
        ((({} : Settings).value? key).map Stored.toValue)) :
      Understanding entries w (.ok t, ignoring entries w)

/-- Either no entry is mistyped, or there is a first one. -/
theorem typed_or_exists_first (entries : Table) :
    (∀ entry ∈ entries, ¬IsMistyped entry) ∨
      ∃ before key value later, entries = before ++ (Key.name key, value) :: later ∧
        (∀ entry ∈ before, ¬IsMistyped entry) ∧ ¬key.kind.Admits value := by
  induction entries with
  | nil => exact .inl (List.forall_mem_nil _)
  | cons entry entries ih =>
      by_cases own : IsMistyped entry
      · obtain ⟨name, value⟩ := entry
        obtain ⟨key, rfl, wrong⟩ := own
        exact .inr ⟨[], key, value, entries, rfl, List.forall_mem_nil _, wrong⟩
      · rcases ih with typed | ⟨before, key, value, later, rfl, typed, wrong⟩
        · exact .inl (List.forall_mem_cons.mpr ⟨own, typed⟩)
        · exact .inr ⟨entry :: before, key, value, later, rfl,
            List.forall_mem_cons.mpr ⟨own, typed⟩, wrong⟩

theorem understanding_run {entries : Table} (distinct : (keysOf entries).Nodup) (w : Workspace η) :
    Understanding entries w ((understand entries).run w) := by
  rw [run_understand]
  rcases typed_or_exists_first entries with typed | ⟨before, key, value, later, split, typed, wrong⟩
  · obtain ⟨t, done⟩ := exists_override_of_typed typed {}
    rw [ofTable, done]
    refine .taken typed fun key => ?_
    rw [← find?_toTable, ← find?_toTable]
    exact (override_eq_ok_iff distinct).mp (congrArg Prod.snd done) key
  · rw [ofTable, split, override_of_mistyped typed wrong]
    exact .refused rfl typed wrong

theorem run_understand_toTable (s : Settings) (w : Workspace η) :
    (understand s.toTable).run w = (.ok s, w) := by
  have ignored : (ofTable s.toTable).1 = [] :=
    override_fst_of_known (fun _ => exists_key_of_mem_toTable) {}
  have read : (ofTable s.toTable).2 = .ok s := by
    refine (override_eq_ok_iff s.nodup_keysOf_toTable).mpr fun key => ?_
    rw [find?_toTable, find?_toTable]
    cases held : s.value? key with
    | some stored => rfl
    | none =>
        rw [value?_default_of_unset held]
        rfl
  rw [run_understand, ignored, read]
  simp [Except.mapError]

/-- **Exactly the tables without mistyped entries are understood, with the given values and the
defaults for the other keys, whatever the order of the entries; a refusal names the first mistyped
key, and the table of settings gives them back.** -/
theorem understand_exact {entries : Table} (distinct : (keysOf entries).Nodup) (w : Workspace η) :
    Understanding entries w ((understand entries).run w) ∧
      ((∃ fault, ((understand entries).run w).1 = .error (.settings fault)) ↔
        ∃ entry ∈ entries, IsMistyped entry) ∧
      (∀ key : Key, (key.kind.fault key.name).message =
        "Config key '" ++ key.name ++ "' must be " ++ key.kind.words) ∧
      (∀ (others : Table) (v : Workspace η), entries.Perm others →
        ((understand entries).run w).1.toOption = ((understand others).run v).1.toOption) ∧
      ∀ s : Settings, (understand s.toTable).run w = (.ok s, w) := by
  have outcome := understanding_run distinct w
  refine ⟨outcome, ?_, fun key => key.kind.message_fault key.name, fun others v same => ?_,
    fun s => run_understand_toTable s w⟩
  · generalize (understand entries).run w = result at outcome
    cases outcome with
    | @refused before later key value split typed wrong =>
        refine iff_of_true ⟨_, rfl⟩ ⟨(key.name, value), ?_, isMistyped_iff.mpr wrong⟩
        simp [split]
    | taken typed values =>
        exact iff_of_false (by rintro ⟨_, ⟨⟩⟩) fun ⟨entry, member, wrong⟩ =>
          typed entry member wrong
  · have kept (result : Except Fault Settings) :
        (result.mapError Failure.settings).toOption = result.toOption := by
      cases result <;> rfl
    rw [run_understand, run_understand, kept, kept]
    exact toOption_override_of_perm distinct same {}

/-- A truth value is no number of seconds, wherever it stands among other entries. -/
theorem understand_exact_truthTimeout :
    let entries : Table := [("color", .empty), ("exclude", .array [.string "Get-A"]),
      ("command_timeout", .boolean true), ("help_width", .string "80")]
    let w : Workspace Unit := { host := () }
    (keysOf entries).Nodup ∧ IsMistyped ("command_timeout", .boolean true) ∧
      (∃ fault, ((understand entries).run w).1 = .error (.settings fault)) ∧
        ((understand entries.reverse).run w).1.toOption = none := by
  intro entries w
  have distinct : (keysOf entries).Nodup := by decide
  have mistyped : IsMistyped ("command_timeout", .boolean true) :=
    ⟨.timeout, rfl, by rintro ⟨⟩⟩
  obtain ⟨_, refused, _, reordered, _⟩ := understand_exact distinct w
  have failed := refused.mpr ⟨_, by simp [entries], mistyped⟩
  refine ⟨distinct, mistyped, failed, ?_⟩
  obtain ⟨fault, named⟩ := failed
  rw [← reordered entries.reverse w (List.reverse_perm entries).symm, named]
  rfl

end CommandDocs.Settings

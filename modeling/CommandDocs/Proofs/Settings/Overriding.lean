import CommandDocs.Proofs.Outcomes
import CommandDocs.Proofs.Toml.Tables
import CommandDocs.Settings.Basic

/-!
# Settings and tables

Settings are told apart by their tables.  Overriding settings by a table without repeated keys
gives the settings whose table has the entries of that one, and the old ones for the other keys.
-/

namespace CommandDocs.Settings

open Toml (Table find? keysOf assignAll)

/-! ## The table of settings -/

theorem Key.name_injective : Function.Injective Key.name := by
  intro key other same
  have found := ofName?_name key
  rw [same, ofName?_name other] at found
  exact (Option.some.inj found).symm

theorem Key.name_of_ofName? {name : String} {key : Key} (found : ofName? name = some key) :
    key.name = name := by
  simpa using List.find?_some found

theorem Key.name_ne_of_ofName? {name : String} (unknown : ofName? name = none) (key : Key) :
    name ≠ key.name := by
  rintro rfl
  rw [ofName?_name] at unknown
  cases unknown

theorem Key.mem_all (key : Key) : key ∈ all := by
  cases key <;> decide

theorem Stored.toValue_injective : Function.Injective Stored.toValue := by
  intro stored other same
  cases stored with
  | text s => cases other <;> simp_all [toValue]
  | number n => cases other <;> simp_all [toValue]
  | texts items =>
      cases other with
      | text s => cases same
      | number n => cases same
      | texts others =>
          have strings : Function.Injective Toml.Value.string := fun _ _ => Toml.Value.string.inj
          rw [List.map_injective_iff.mpr strings (Toml.Value.array.inj same)]

def tableAt (s : Settings) (keys : List Key) : Table :=
  (keys.filterMap fun key => (s.value? key).map fun value => (key, value)).map
    fun (key, value) => (key.name, value.toValue)

theorem toTable_eq_tableAt (s : Settings) : s.toTable = s.tableAt Key.all :=
  rfl

theorem tableAt_cons_of_none {s : Settings} {key : Key} (unset : s.value? key = none)
    (keys : List Key) : s.tableAt (key :: keys) = s.tableAt keys := by
  simp [tableAt, unset]

theorem tableAt_cons_of_some {s : Settings} {key : Key} {stored : Stored}
    (held : s.value? key = some stored) (keys : List Key) :
    s.tableAt (key :: keys) = (key.name, stored.toValue) :: s.tableAt keys := by
  simp [tableAt, held]

theorem find?_tableAt (s : Settings) (key : Key) (keys : List Key) :
    find? key.name (s.tableAt keys) =
      if key ∈ keys then (s.value? key).map Stored.toValue else none := by
  induction keys with
  | nil => rfl
  | cons first keys ih =>
      cases held : s.value? first with
      | none =>
          rw [tableAt_cons_of_none held, ih]
          by_cases same : key = first
          · subst same
            simp [held]
          · simp [same]
      | some stored =>
          rw [tableAt_cons_of_some held]
          by_cases same : key = first
          · subst same
            simp [held, Toml.find?_cons_self]
          · have apart : first.name ≠ key.name := fun names => same (Key.name_injective names).symm
            rw [Toml.find?_cons_of_ne apart, ih]
            simp [same]

theorem find?_toTable (s : Settings) (key : Key) :
    find? key.name s.toTable = (s.value? key).map Stored.toValue := by
  rw [toTable_eq_tableAt, find?_tableAt, if_pos key.mem_all]

theorem keysOf_tableAt_sublist (s : Settings) (keys : List Key) :
    (keysOf (s.tableAt keys)).Sublist (keys.map Key.name) := by
  induction keys with
  | nil => exact .slnil
  | cons key keys ih =>
      cases held : s.value? key with
      | none =>
          rw [tableAt_cons_of_none held]
          exact ih.cons key.name
      | some stored =>
          rw [tableAt_cons_of_some held]
          exact ih.cons_cons key.name

theorem nodup_keysOf_toTable (s : Settings) : (keysOf s.toTable).Nodup := by
  have names : (Key.all.map Key.name).Nodup := by decide
  exact names.sublist (keysOf_tableAt_sublist s Key.all)

theorem exists_key_of_mem_toTable {s : Settings} {name : String} (member : name ∈ keysOf s.toTable) :
    ∃ key : Key, name = key.name := by
  obtain ⟨key, -, rfl⟩ := List.mem_map.mp ((keysOf_tableAt_sublist s Key.all).subset member)
  exact ⟨key, rfl⟩

theorem ext_value? {s t : Settings} (same : ∀ key, s.value? key = t.value? key) : s = t := by
  have texts : Function.Injective (Option.map Stored.text) :=
    Option.map_injective fun _ _ => Stored.text.inj
  obtain ⟨_, _, _, _, _, _, _, _, _, _⟩ := s
  obtain ⟨_, _, _, _, _, _, _, _, _, _⟩ := t
  rw [Settings.mk.injEq]
  exact ⟨Stored.text.inj (Option.some.inj (same .scriptExtension)),
    Stored.text.inj (Option.some.inj (same .bundleExtension)),
    Stored.number.inj (Option.some.inj (same .helpWidth)),
    Stored.text.inj (Option.some.inj (same .executable)),
    Stored.number.inj (Option.some.inj (same .timeout)), texts (same .headerTemplate),
    texts (same .footerTemplate), texts (same .docsBaseUrl),
    Stored.texts.inj (Option.some.inj (same .exclude)),
    Stored.texts.inj (Option.some.inj (same .inProgress))⟩

theorem ext_toTable {s t : Settings}
    (same : ∀ key : Key, find? key.name s.toTable = find? key.name t.toTable) : s = t := by
  refine ext_value? fun key => Option.map_injective Stored.toValue_injective ?_
  have held := same key
  rwa [find?_toTable, find?_toTable] at held

/-! ## Overriding -/

theorem strings?_eq_some_iff {items : List Toml.Value} {texts : List String} :
    strings? items = some texts ↔ items = texts.map .string := by
  induction items generalizing texts with
  | nil => cases texts <;> simp [strings?]
  | cons item items ih =>
      cases item with
      | string s => cases texts <;> simp_all [strings?, and_comm]
      | _ => cases texts <;> simp [strings?]

section Kinds

variable {key : Key} {value : Toml.Value}

theorem stringOf_eq_ok_iff {s : String} : stringOf key value = .ok s ↔ value = .string s := by
  cases value <;> simp [stringOf]

theorem integerOf_eq_ok_iff {n : Int} : integerOf key value = .ok n ↔ value = .integer n := by
  cases value <;> simp [integerOf]

theorem listOf_eq_ok_iff {texts : List String} :
    listOf key value = .ok texts ↔ value = .array (texts.map .string) := by
  cases value with
  | array items =>
      rw [Toml.Value.array.injEq, ← strings?_eq_some_iff, listOf]
      cases strings? items <;> simp
  | _ => simp [listOf]

end Kinds

/-- Assigning a key gives it the value and leaves the other keys alone. -/
theorem value?_of_assign {s t : Settings} {key : Key} {value : Toml.Value}
    (assigned : s.assign key value = .ok t) :
    (t.value? key).map Stored.toValue = some value ∧
      ∀ other, other ≠ key → t.value? other = s.value? other := by
  cases key with
  | scriptExtension | bundleExtension | executable | headerTemplate | footerTemplate
  | docsBaseUrl =>
      obtain ⟨text, read, rfl⟩ := exists_of_map_eq_ok assigned
      rw [stringOf_eq_ok_iff.mp read]
      refine ⟨rfl, fun other apart => ?_⟩
      cases other <;> first | rfl | exact absurd rfl apart
  | helpWidth | timeout =>
      obtain ⟨n, read, rfl⟩ := exists_of_map_eq_ok assigned
      rw [integerOf_eq_ok_iff.mp read]
      refine ⟨rfl, fun other apart => ?_⟩
      cases other <;> first | rfl | exact absurd rfl apart
  | exclude | inProgress =>
      obtain ⟨texts, read, rfl⟩ := exists_of_map_eq_ok assigned
      rw [listOf_eq_ok_iff.mp read]
      refine ⟨rfl, fun other apart => ?_⟩
      cases other <;> first | rfl | exact absurd rfl apart

/-- What some settings hold under a key can be assigned to it. -/
theorem exists_assign {t : Settings} {key : Key} {stored : Stored}
    (held : t.value? key = some stored) (s : Settings) :
    ∃ next, s.assign key stored.toValue = .ok next := by
  cases key with
  | scriptExtension | bundleExtension | executable | helpWidth | timeout =>
      cases held
      exact ⟨_, rfl⟩
  | headerTemplate | footerTemplate | docsBaseUrl =>
      obtain ⟨text, _, rfl⟩ := Option.map_eq_some_iff.mp held
      exact ⟨_, rfl⟩
  | exclude | inProgress =>
      cases held
      exact ⟨_, congrArg (Except.map _) (listOf_eq_ok_iff.mpr rfl)⟩

theorem find?_ne_of_assign_error {s : Settings} {key : Key} {value : Toml.Value} {fault : Fault}
    (refused : s.assign key value = .error fault) (t : Settings) :
    find? key.name t.toTable ≠ some value := by
  rw [find?_toTable]
  intro held
  obtain ⟨stored, holds, rfl⟩ := Option.map_eq_some_iff.mp held
  obtain ⟨next, possible⟩ := exists_assign holds s
  rw [refused] at possible
  cases possible

/-- Assigning the first entry of a table and then looking past it is looking into the table. -/
theorem or_find?_of_assign {s next : Settings} {key : Key} {value : Toml.Value} {entries : Table}
    (assigned : s.assign key value = .ok next) (missing : find? key.name entries = none)
    (other : Key) : (find? other.name entries).or (find? other.name next.toTable) =
      (find? other.name ((key.name, value) :: entries)).or (find? other.name s.toTable) := by
  obtain ⟨given, kept⟩ := value?_of_assign assigned
  by_cases same : other = key
  · subst same
    rw [find?_toTable next, given, missing, Toml.find?_cons_self]
    rfl
  · have apart : key.name ≠ other.name := fun names => same (Key.name_injective names).symm
    rw [Toml.find?_cons_of_ne apart, find?_toTable next, find?_toTable s, kept other same]

/-- Settings are overridden by a table exactly when the result has the entries of the table, and
the old ones for the other keys. -/
theorem override_eq_ok_iff {entries : Table} (distinct : (keysOf entries).Nodup)
    {s t : Settings} :
    (override s entries).2 = .ok t ↔ ∀ key : Key, find? key.name t.toTable =
      (find? key.name entries).or (find? key.name s.toTable) := by
  induction entries generalizing s with
  | nil =>
      constructor
      · rintro same key
        cases same
        rfl
      · intro same
        exact congrArg Except.ok (ext_toTable fun key => (same key).symm)
  | cons entry entries ih =>
      obtain ⟨name, value⟩ := entry
      obtain ⟨fresh, others⟩ := List.nodup_cons.mp distinct
      cases known : Key.ofName? name with
      | none =>
          simp only [override, known]
          rw [ih others]
          refine forall_congr' fun key => ?_
          rw [Toml.find?_cons_of_ne (Key.name_ne_of_ofName? known key)]
      | some own =>
          obtain rfl := Key.name_of_ofName? known
          cases assigned : s.assign own value with
          | error fault =>
              simp only [override, known, assigned]
              refine iff_of_false (by simp) fun same => find?_ne_of_assign_error assigned t ?_
              rw [same own, Toml.find?_cons_self]
              rfl
          | ok next =>
              simp only [override, known, assigned]
              rw [ih others]
              refine forall_congr' fun key => ?_
              rw [or_find?_of_assign assigned (Toml.find?_eq_none_iff.mpr fresh)]

/-- Only unknown keys are ignored. -/
theorem override_fst_of_known {entries : Toml.Table}
    (known : ∀ name ∈ keysOf entries, ∃ key : Key, name = key.name) (s : Settings) :
    (s.override entries).1 = [] := by
  induction entries generalizing s with
  | nil => rfl
  | cons entry entries ih =>
      obtain ⟨name, value⟩ := entry
      obtain ⟨⟨key, rfl⟩, others⟩ := List.forall_mem_cons.mp known
      simp only [override, Key.ofName?_name]
      cases s.assign key value with
      | error fault => rfl
      | ok next => exact ih others next

/-! ## Settings over an old table -/

theorem value?_default_of_unset {s : Settings} {key : Key} (unset : s.value? key = none) :
    ({} : Settings).value? key = none := by
  cases key <;> first | rfl | cases unset

section Over

variable {s : Settings} {old : Table}

section Merged

variable {merged : Table} (distinct : (keysOf merged).Nodup)
  (same : ∀ key, find? key merged = (find? key s.toTable).or (find? key old))
include distinct same

/-- A table that has the values of some settings, and for the other keys those of an old table, is
read as settings with these values. -/
theorem ofTable_eq_ok_iff_of_merged {t : Settings} :
    (ofTable merged).2 = .ok t ↔ ∀ key : Key,
      find? key.name t.toTable = (find? key.name s.toTable).or (find? key.name old) := by
  rw [ofTable, override_eq_ok_iff distinct]
  refine forall_congr' fun key => ?_
  rw [same, find?_toTable s, find?_toTable {}]
  cases held : s.value? key with
  | some stored => rfl
  | none =>
      rw [value?_default_of_unset held]
      simp

/-- A table that settings are merged into is read as these settings exactly when the old table
holds none of their keys without a value. -/
theorem ofTable_eq_ok_self_iff_of_merged :
    (ofTable merged).2 = .ok s ↔ ∀ key, s.value? key = none → find? key.name old = none := by
  rw [ofTable_eq_ok_iff_of_merged distinct same]
  refine forall_congr' fun key => ?_
  rw [find?_toTable]
  cases held : s.value? key with
  | some stored => simp
  | none => simp [eq_comm]

end Merged

variable (distinct : (keysOf old).Nodup)
include distinct

/-- Settings assigned to an old table are read as they were exactly when it holds none of their
keys without a value. -/
theorem ofTable_assignAll_eq_ok_self_iff :
    (ofTable (assignAll old s.toTable)).2 = .ok s ↔
      ∀ key, s.value? key = none → find? key.name old = none :=
  ofTable_eq_ok_self_iff_of_merged (Toml.nodup_keysOf_assignAll s.toTable distinct)
    fun _ => Toml.find?_assignAll s.nodup_keysOf_toTable

end Over

end CommandDocs.Settings

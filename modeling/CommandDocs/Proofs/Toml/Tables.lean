import CommandDocs.Toml.Namespace
import Mathlib.Data.List.Nodup

/-!
# Tables as lists of keys

A key has a value exactly when it stands in the table.  Assigning a key gives it its value and
leaves the values of the other keys alone.
-/

namespace CommandDocs.Toml

def keysOf (t : Table) : List String :=
  t.map Prod.fst

section Find

variable {key other : String} {value : Value} {t : Table}

theorem find?_cons_self (key : String) (value : Value) (t : Table) :
    find? key ((key, value) :: t) = some value := by
  simp [find?]

theorem find?_cons_of_ne (apart : other ≠ key) : find? key ((other, value) :: t) = find? key t := by
  simp [find?, apart]

theorem find?_eq_none_iff : find? key t = none ↔ key ∉ keysOf t := by
  induction t with
  | nil => simp [find?, keysOf]
  | cons entry t ih =>
      obtain ⟨name, value⟩ := entry
      by_cases same : name = key
      · simp [same, find?_cons_self, keysOf]
      · rw [find?_cons_of_ne same, ih]
        simp [keysOf, Ne.symm same]

/-- A new key comes last. -/
theorem assign_of_find?_eq_none (free : find? key t = none) :
    assign key value t = t ++ [(key, value)] := by
  induction t with
  | nil => rfl
  | cons entry t ih =>
      obtain ⟨name, old⟩ := entry
      by_cases same : name = key
      · rw [same, find?_cons_self] at free
        cases free
      · rw [find?_cons_of_ne same] at free
        simp [assign, same, ih free]

theorem find?_assign_self (key : String) (value : Value) (t : Table) :
    find? key (assign key value t) = some value := by
  induction t with
  | nil => exact find?_cons_self key value []
  | cons entry t ih =>
      obtain ⟨name, old⟩ := entry
      by_cases same : name = key
      · simp [assign, same, find?_cons_self]
      · simp [assign, same, find?_cons_of_ne same, ih]

theorem find?_assign_of_ne (apart : other ≠ key) (value : Value) (t : Table) :
    find? key (assign other value t) = find? key t := by
  induction t with
  | nil => exact find?_cons_of_ne apart
  | cons entry t ih =>
      obtain ⟨name, old⟩ := entry
      by_cases same : name = other
      · simp [assign, same, find?_cons_of_ne apart]
      · by_cases own : name = key
        · rw [← own]
          simp [assign, same, find?_cons_self]
        · simp [assign, same, find?_cons_of_ne own, ih]

end Find

/-! ## Assigning a whole table -/

def assignAll (t entries : Table) : Table :=
  entries.foldl (fun done entry => assign entry.1 entry.2 done) t

section All

variable {key : String} {t entries : Table}

theorem keysOf_assign (key : String) (value : Value) (t : Table) :
    keysOf (assign key value t) = if key ∈ keysOf t then keysOf t else keysOf t ++ [key] := by
  induction t with
  | nil => rfl
  | cons entry t ih =>
      obtain ⟨name, old⟩ := entry
      by_cases same : name = key
      · simp [assign, same, keysOf]
      · have apart : key ≠ name := Ne.symm same
        have later : keysOf (assign key value ((name, old) :: t)) =
            name :: keysOf (assign key value t) := by
          simp [assign, same, keysOf]
        rw [later, ih]
        by_cases member : key ∈ keysOf t
        · simp [keysOf] at member ⊢
          simp [member]
        · simp [keysOf] at member ⊢
          simp [member, apart]

theorem nodup_keysOf_assign (value : Value) (distinct : (keysOf t).Nodup) :
    (keysOf (assign key value t)).Nodup := by
  rw [keysOf_assign]
  split
  · exact distinct
  · rename_i absent
    exact distinct.append (List.nodup_singleton key) (List.disjoint_singleton.mpr absent)

theorem nodup_keysOf_assignAll (entries : Table) (distinct : (keysOf t).Nodup) :
    (keysOf (assignAll t entries)).Nodup := by
  induction entries generalizing t with
  | nil => exact distinct
  | cons entry entries ih => exact ih (nodup_keysOf_assign entry.2 distinct)

theorem mem_keysOf_assignAll :
    key ∈ keysOf (assignAll t entries) ↔ key ∈ keysOf t ∨ key ∈ keysOf entries := by
  induction entries generalizing t with
  | nil => simp [assignAll, keysOf]
  | cons entry entries ih =>
      have later : key ∈ keysOf (assignAll t (entry :: entries)) ↔
          key ∈ keysOf (assign entry.1 entry.2 t) ∨ key ∈ keysOf entries := ih
      rw [later, keysOf_assign]
      split
      · rename_i member
        have known : key = entry.1 → key ∈ keysOf t := fun same => same ▸ member
        simp only [keysOf, List.map_cons, List.mem_cons] at known ⊢
        tauto
      · simp only [keysOf, List.mem_append, List.map_cons, List.mem_cons, List.not_mem_nil,
          or_false, or_assoc]

/-- The assigned entries come before the others. -/
theorem find?_assignAll (distinct : (keysOf entries).Nodup) :
    find? key (assignAll t entries) = (find? key entries).or (find? key t) := by
  induction entries generalizing t with
  | nil => simp [assignAll, find?]
  | cons entry entries ih =>
      obtain ⟨name, value⟩ := entry
      obtain ⟨fresh, others⟩ := List.nodup_cons.mp distinct
      have later : find? key (assignAll t ((name, value) :: entries)) =
          (find? key entries).or (find? key (assign name value t)) := ih others
      rw [later]
      by_cases same : name = key
      · subst same
        rw [find?_eq_none_iff.mpr fresh, find?_assign_self, find?_cons_self]
        rfl
      · rw [find?_assign_of_ne same, find?_cons_of_ne same]

end All

/-! ## Comparing tables -/

mutual

/-- Whether two values are found to be the same. -/
def Value.same : Value → Value → Bool
  | .empty, .empty => true
  | .boolean a, .boolean b => a == b
  | .integer a, .integer b => a == b
  | .float a, .float b => a == b
  | .moment a, .moment b => a == b
  | .string a, .string b => a == b
  | .array a, .array b => sameItems a b
  | .table a, .table b => sameEntries a b
  | _, _ => false

def sameItems : List Value → List Value → Bool
  | [], [] => true
  | a :: s, b :: t => a.same b && sameItems s t
  | _, _ => false

def sameEntries : Table → Table → Bool
  | [], [] => true
  | (key, a) :: s, (other, b) :: t => key == other && a.same b && sameEntries s t
  | _, _ => false

end

mutual

theorem Value.eq_of_same {a b : Value} (same : a.same b = true) : a = b := by
  cases a with
  | array s => cases b with
    | array t => exact congrArg Value.array (eq_of_sameItems (by simpa [Value.same] using same))
    | _ => simp [Value.same] at same
  | table s => cases b with
    | table t => exact congrArg Value.table (eq_of_sameEntries (by simpa [Value.same] using same))
    | _ => simp [Value.same] at same
  | _ => cases b <;> simp_all [Value.same]

theorem eq_of_sameItems {s t : List Value} (same : sameItems s t = true) : s = t := by
  cases s with
  | nil => cases t with
    | nil => rfl
    | cons b t => simp [sameItems] at same
  | cons a s => cases t with
    | nil => simp [sameItems] at same
    | cons b t =>
        rw [sameItems, Bool.and_eq_true] at same
        rw [Value.eq_of_same same.1, eq_of_sameItems same.2]

theorem eq_of_sameEntries {s t : Table} (same : sameEntries s t = true) : s = t := by
  cases s with
  | nil => cases t with
    | nil => rfl
    | cons b t => simp [sameEntries] at same
  | cons a s => cases t with
    | nil => simp [sameEntries] at same
    | cons b t =>
        obtain ⟨key, a⟩ := a
        obtain ⟨other, b⟩ := b
        rw [sameEntries, Bool.and_eq_true, Bool.and_eq_true, beq_iff_eq] at same
        rw [same.1.1, Value.eq_of_same same.1.2, eq_of_sameEntries same.2]

end

end CommandDocs.Toml

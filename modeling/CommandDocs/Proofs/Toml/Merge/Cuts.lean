import CommandDocs.Proofs.Toml.Merge.Apart
import CommandDocs.Proofs.Toml.Merge.Rests

/-!
# The lines of a document and their comments

A line is cut into the value of its entry and what stands beside it.  Comments are found in both,
outside of strings.
-/

namespace CommandDocs.Toml

/-! ## Lines -/

/-- A line as it is read: what it says, the text of the value if it is an entry, and the text
beside that. -/
structure Cut where
  item : Option Item
  value : List Char
  beside : List Char

/-- The text of the value in the entry that opens a text, and what follows it. -/
def cutEntry (s : List Char) : List Char × List Char :=
  match readKey (s.length + 1) s with
  | .ok (_, '=' :: rest) =>
      let start := rest.dropWhile Text.isGap
      match readValue (2 * start.length + 2) start with
      | .ok (_, more) => (taken start more, more)
      | .error _ => ([], s)
  | _ => ([], s)

/-- The line that opens a text, given what is read from it and what is left. -/
def cutOf (s : List Char) (item : Option Item) (rest : List Char) : Cut :=
  match item with
  | some (.entry _ _) =>
      let (value, more) := cutEntry (s.dropWhile Text.isGap)
      ⟨item, value, taken more rest⟩
  | _ => ⟨item, [], taken s rest⟩

/-- The lines of a text as far as it can be read, and the fault that stops the reading, if there
is one. -/
def cutsOf : Nat → List Char → List Cut × Option Fault
  | 0, _ => ([], none)
  | _, [] => ([], none)
  | fuel + 1, s =>
      match readItem s with
      | .error fault => ([], some fault)
      | .ok (item, rest) =>
          let (cuts, fault) := cutsOf fuel rest
          (cutOf s item rest :: cuts, fault)

theorem item_cutOf (s : List Char) (item : Option Item) (rest : List Char) :
    (cutOf s item rest).item = item := by
  unfold cutOf
  split <;> rfl

/-- The items of a document are those of its lines. -/
theorem itemsOf_eq_cutsOf (fuel : Nat) (s : List Char) :
    itemsOf fuel s = ((cutsOf fuel s).1.filterMap Cut.item, (cutsOf fuel s).2) := by
  induction fuel generalizing s with
  | zero => rfl
  | succ fuel ih =>
      cases s with
      | nil => rfl
      | cons c s =>
          rw [itemsOf, cutsOf]
          · cases readItem (c :: s) with
            | error fault => rfl
            | ok found =>
                obtain ⟨item, rest⟩ := found
                simp only [ih rest]
                cases item <;> simp [item_cutOf]
          · simp
          · simp

/-- More fuel than there are characters makes no difference. -/
theorem cutsOf_eq {fuel more : Nat} {s : List Char} (enough : s.length ≤ fuel)
    (enough' : s.length ≤ more) : cutsOf fuel s = cutsOf more s := by
  induction fuel generalizing more s with
  | zero =>
      rw [List.length_eq_zero_iff.mp (Nat.le_zero.mp enough)]
      cases more <;> rfl
  | succ fuel ih =>
      cases s with
      | nil => cases more <;> rfl
      | cons c s =>
          obtain ⟨more, rfl⟩ := Nat.exists_eq_add_one_of_ne_zero (Nat.ne_zero_of_lt enough')
          rw [cutsOf, cutsOf]
          · cases read : readItem (c :: s) with
            | error fault => rfl
            | ok found =>
                obtain ⟨item, rest⟩ := found
                have shorter := length_lt_of_readItem read (List.cons_ne_nil c s)
                have same : cutsOf fuel rest = cutsOf more rest :=
                  ih (by omega) (by omega)
                simp only [same]
          · simp
          · simp

/-- The lines of a whole text. -/
def cuts (s : List Char) : List Cut × Option Fault :=
  cutsOf s.length s

/-- A text is cut after its first line. -/
theorem cuts_of_readItem {s rest : List Char} {item : Option Item} (shown : s ≠ [])
    (read : readItem s = .ok (item, rest)) :
    cuts s = (cutOf s item rest :: (cuts rest).1, (cuts rest).2) := by
  have shorter := length_lt_of_readItem read shown
  obtain ⟨fuel, more⟩ := Nat.exists_eq_add_one_of_ne_zero (Nat.ne_zero_of_lt shorter)
  have same : cutsOf fuel rest = cuts rest := cutsOf_eq (by omega) (Nat.le_refl _)
  rw [cuts, more, cutsOf, read]
  · simp only [same]
  · exact shown

theorem cuts_of_readItem_error {s : List Char} {fault : Fault} (shown : s ≠ [])
    (read : readItem s = .error fault) : cuts s = ([], some fault) := by
  obtain ⟨fuel, more⟩ := Nat.exists_eq_add_one_of_ne_zero (List.length_pos_iff.mpr shown).ne'
  rw [cuts, more, cutsOf, read]
  exact shown

/-- What a line says. -/
def itemsIn (lines : List Cut) : List Item :=
  lines.filterMap Cut.item

theorem ne_nil_of_readKey {fuel : Nat} {s rest : List Char} {key : List String}
    (read : readKey fuel s = .ok (key, rest)) : key ≠ [] := by
  cases fuel with
  | zero =>
      rw [readKey] at read
      cases read
  | succ fuel =>
      rw [readKey] at read
      split at read
      · cases read
      · split at read
        · obtain ⟨⟨parts, more⟩, -, same⟩ := exists_of_map_eq_ok read
          cases same
          exact List.cons_ne_nil _ _
        · cases read
          exact List.cons_ne_nil _ _

theorem key_ne_nil_of_readHeader {s rest : List Char} {array : Bool} {key : List String}
    (read : readHeader s = .ok ((array, key), rest)) : key ≠ [] := by
  unfold readHeader at read
  split at read
  · split at read
    · rename_i named
      cases read
      exact ne_nil_of_readKey named
    · cases read
    · cases read
  · split at read
    · rename_i named
      cases read
      exact ne_nil_of_readKey named
    · cases read
    · cases read
  · cases read

theorem key_ne_nil_of_readEntry {s rest : List Char} {item : Item}
    (read : readEntry s = .ok (item, rest)) : item.key ≠ [] := by
  unfold readEntry at read
  split at read
  · cases read
  · rename_i named
    dsimp only at read
    split at read
    · cases read
    · obtain ⟨last, -, same⟩ := exists_of_map_eq_ok read
      cases same
      exact ne_nil_of_readKey named
  · cases read

theorem key_ne_nil_of_readItem {s rest : List Char} {item : Item}
    (read : readItem s = .ok (some item, rest)) : item.key ≠ [] := by
  unfold readItem at read
  split at read
  · cases read
  · cases read
  · obtain ⟨after, -, same⟩ := exists_of_map_eq_ok read
    cases same
  · split at read
    · cases read
    · rename_i headed
      obtain ⟨after, -, same⟩ := exists_of_map_eq_ok read
      cases same
      exact key_ne_nil_of_readHeader headed
  · obtain ⟨⟨found, after⟩, entered, same⟩ := exists_of_map_eq_ok read
    cases same
    exact key_ne_nil_of_readEntry entered

/-- Whatever is said has a key. -/
theorem key_ne_nil_of_mem_itemsIn {fuel : Nat} {s : List Char} :
    ∀ item ∈ itemsIn (cutsOf fuel s).1, item.key ≠ [] := by
  induction fuel generalizing s with
  | zero => simp [cutsOf, itemsIn]
  | succ fuel ih =>
      cases s with
      | nil => simp [cutsOf, itemsIn]
      | cons c s =>
          rw [cutsOf]
          · cases read : readItem (c :: s) with
            | error fault => simp [itemsIn]
            | ok found =>
                obtain ⟨item?, rest⟩ := found
                intro item member
                simp only [itemsIn, List.filterMap_cons, item_cutOf] at member
                cases item? with
                | none => exact ih item member
                | some first =>
                    rcases List.mem_cons.mp member with rfl | later
                    · exact key_ne_nil_of_readItem read
                    · exact ih item later
          · simp

/-- A document is read when its lines are, and what they say fits together. -/
theorem readDocument_eq_ok_iff {s : List Char} {t : Table} :
    readDocument s = .ok t ↔
      (cuts s).2 = none ∧ ∃ c, ({} : Content).addAll (itemsIn (cuts s).1) = .ok c ∧ c.root = t := by
  have read : itemsOf s.length s = (itemsIn (cuts s).1, (cuts s).2) := itemsOf_eq_cutsOf s.length s
  unfold readDocument
  simp only [read]
  cases ({} : Content).addAll (itemsIn (cuts s).1) with
  | error fault => simp
  | ok c => cases (cuts s).2 <;> simp

/-- What is read from a text can be found by evaluation. -/
theorem readTable_of_same {s : String} {t : Table}
    (same : (readTable s).toOption.any (sameEntries · t) = true) : readTable s = .ok t := by
  cases read : readTable s with
  | error fault =>
      rw [read] at same
      cases same
  | ok found =>
      rw [read] at same
      exact congrArg Except.ok (eq_of_sameEntries same)

/-! ## Comments -/

/-- The comments in a text, outside of strings. -/
def remarksWithin : Nat → List Char → List (List Char)
  | 0, _ => []
  | _, [] => []
  | fuel + 1, c :: rest =>
      if c == '#' then
        (c :: rest.takeWhile (· != '\n')) :: remarksWithin fuel (rest.dropWhile (· != '\n'))
      else
        match readString (c :: rest) with
        | .ok (_, after) => remarksWithin fuel after
        | .error _ => remarksWithin fuel rest

/-- The comments in a text that is shorter than its fuel. -/
def remarksIn (s : List Char) : List (List Char) :=
  remarksWithin s.length s

/-- The comments on some lines, but for those inside of the values of some keys at the top. -/
def remarksOn (out : List (List String)) : List Cut → List (List Char)
  | [] => []
  | cut :: rest =>
      match cut.item with
      | some (.entry key _) =>
          (if out.contains key then [] else remarksIn cut.value) ++ remarksIn cut.beside ++
            remarksOn out rest
      | some (.header _ _) => remarksIn cut.beside ++ remarksOn [] rest
      | none => remarksIn cut.beside ++ remarksOn out rest

end CommandDocs.Toml

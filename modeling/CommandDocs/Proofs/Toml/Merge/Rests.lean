import CommandDocs.Proofs.Outcomes
import CommandDocs.Toml.Document
import Mathlib.Data.List.Infix

/-!
# What is left of a text

Every reader leaves an end of the text that it reads.  A line is never empty, so that the lines of
a document come to an end.
-/

namespace CommandDocs.Toml

/-- What can come out of reading a text: whatever is left is an end of it. -/
def Leaves {α : Type} (s : List Char) (outcome : Read α) : Prop :=
  ∀ x rest, outcome = .ok (x, rest) → rest <:+ s

section Leaves

variable {α β : Type} {s t : List Char} {outcome : Read α}

theorem leaves_error (fault : Fault) : Leaves s (.error fault : Read α) := by
  intro x rest read
  cases read

theorem leaves_ok {x : α} {rest : List Char} (within : rest <:+ s) : Leaves s (.ok (x, rest)) := by
  intro y more read
  cases read
  exact within

theorem Leaves.mono (leaves : Leaves s outcome) (within : s <:+ t) : Leaves t outcome :=
  fun x rest read => (leaves x rest read).trans within

theorem Leaves.map (leaves : Leaves s outcome) {f : α × List Char → β × List Char}
    (keeps : ∀ found, (f found).2 = found.2) : Leaves s (outcome.map f) := by
  intro y rest read
  cases outcome with
  | error fault => cases read
  | ok found =>
      have left := leaves found.1 found.2 rfl
      have same : f found = (y, rest) := Except.ok.inj read
      rwa [← keeps found, same] at left

end Leaves

/-! ## Strings and keys -/

theorem suffix_of_readQuotes (quote : Char) (s : List Char) : (readQuotes quote s).2 <:+ s := by
  unfold readQuotes
  split
  · split
    · split
      · exact (List.suffix_cons _ _).trans (List.suffix_cons _ _)
      · exact List.suffix_cons _ _
    · exact List.suffix_refl _
  · split
    · exact List.nil_suffix
    · exact List.suffix_refl _
  · exact List.suffix_refl _

theorem leaves_readEscape (s : List Char) : Leaves s (readEscape s) := by
  unfold readEscape
  split
  · split
    · exact leaves_ok ((List.suffix_append [_, _, _, _, _] _))
    · exact leaves_error _
  · split
    · exact leaves_ok ((List.suffix_append [_, _, _, _, _, _, _, _, _] _))
    · exact leaves_error _
  · split
    · exact leaves_ok (List.suffix_cons _ _)
    · exact leaves_error _
  · exact leaves_error _

theorem leaves_readBasic (s : List Char) : Leaves s (readBasic s) := by
  fun_induction readBasic s with
  | case1 => exact leaves_error _
  | case2 rest => exact leaves_ok (List.suffix_cons _ _)
  | case3 rest fault failed => exact leaves_error _
  | case4 rest x more read shorter ih =>
      have left := leaves_readEscape rest x more read
      exact (ih.mono (left.trans (List.suffix_cons _ _))).map fun found => rfl
  | case5 => exact leaves_error _
  | case6 c rest _ _ legal ih => exact (ih.mono (List.suffix_cons _ _)).map fun found => rfl

theorem leaves_readLiteral (s : List Char) : Leaves s (readLiteral s) := by
  fun_induction readLiteral s with
  | case1 => exact leaves_error _
  | case2 => exact leaves_ok (List.suffix_cons _ _)
  | case3 => exact leaves_error _
  | case4 c rest _ _ ih => exact (ih.mono (List.suffix_cons _ _)).map fun found => rfl

theorem leaves_readLongLiteral (s : List Char) : Leaves s (readLongLiteral s) := by
  fun_induction readLongLiteral s with
  | case1 rest =>
      exact leaves_ok ((suffix_of_readQuotes _ rest).trans (List.suffix_append [_, _, _] rest))
  | case2 => exact leaves_error _
  | case3 => exact leaves_error _
  | case4 c rest _ _ ih => exact (ih.mono (List.suffix_cons _ _)).map fun found => rfl

theorem suffix_of_afterJoin? {s rest : List Char} (read : afterJoin? s = some rest) :
    rest <:+ s := by
  unfold afterJoin? at read
  split at read
  · cases read
  · rename_i c tail
    split at read
    · split at read
      · rename_i more cut
        cases read
        have left := List.dropWhile_suffix Text.isGap (l := c :: tail)
        rw [cut] at left
        exact ((List.dropWhile_suffix _).trans (List.suffix_cons _ _)).trans left
      · cases read
    · cases read

theorem leaves_readLongBasic (s : List Char) : Leaves s (readLongBasic s) := by
  fun_induction readLongBasic s with
  | case1 => exact leaves_error _
  | case2 rest =>
      exact leaves_ok ((suffix_of_readQuotes _ rest).trans (List.suffix_append [_, _, _] rest))
  | case3 rest more joined _ ih =>
      exact ih.mono ((suffix_of_afterJoin? joined).trans (List.suffix_cons _ _))
  | case4 => exact leaves_error _
  | case5 rest _ x more read _ ih =>
      have left := leaves_readEscape rest x more read
      exact (ih.mono (left.trans (List.suffix_cons _ _))).map fun found => rfl
  | case6 => exact leaves_error _
  | case7 c rest _ _ _ ih => exact (ih.mono (List.suffix_cons _ _)).map fun found => rfl

theorem suffix_of_dropFeed (s : List Char) : dropFeed s <:+ s := by
  unfold dropFeed
  split
  · exact List.suffix_cons _ _
  · exact List.suffix_refl _

theorem leaves_readString (s : List Char) : Leaves s (readString s) := by
  unfold readString
  split
  · rename_i rest
    exact (leaves_readLongBasic _).mono
      ((suffix_of_dropFeed rest).trans (List.suffix_append [_, _, _] rest))
  · exact (leaves_readBasic _).mono (List.suffix_cons _ _)
  · rename_i rest
    exact (leaves_readLongLiteral _).mono
      ((suffix_of_dropFeed rest).trans (List.suffix_append [_, _, _] rest))
  · exact (leaves_readLiteral _).mono (List.suffix_cons _ _)
  · exact leaves_error _

theorem leaves_readKeyPart (s : List Char) : Leaves s (readKeyPart s) := by
  unfold readKeyPart
  split
  · exact ((leaves_readBasic _).mono (List.suffix_cons _ _)).map fun found => rfl
  · exact ((leaves_readLiteral _).mono (List.suffix_cons _ _)).map fun found => rfl
  · split
    · exact leaves_error _
    · exact leaves_ok (List.dropWhile_suffix _)

theorem leaves_readKey (fuel : Nat) (s : List Char) : Leaves s (readKey fuel s) := by
  fun_induction readKey fuel s with
  | case1 => exact leaves_error _
  | case2 => exact leaves_error _
  | case3 fuel s part after read rest cut ih =>
      have left := List.dropWhile_suffix Text.isGap (l := after)
      rw [cut] at left
      have within := left.trans (leaves_readKeyPart s part after read)
      have later := ((List.dropWhile_suffix Text.isGap).trans (List.suffix_cons _ _)).trans within
      exact (ih.mono later).map fun found => rfl
  | case4 fuel s part after read _ =>
      exact leaves_ok ((List.dropWhile_suffix _).trans (leaves_readKeyPart s part after read))

/-! ## Numbers and points in time -/

theorem suffix_of_readRun (digit : Char → Bool) (s : List Char) : (readRun digit s).2 <:+ s := by
  fun_induction readRun digit s with
  | case1 => exact List.suffix_refl _
  | case2 c rest _ more after read ih =>
      rw [read] at ih
      exact (ih.trans (List.suffix_cons _ _)).trans (List.suffix_cons _ _)
  | case3 => exact List.suffix_refl _
  | case4 c rest _ _ more after read ih =>
      rw [read] at ih
      exact ih.trans (List.suffix_cons _ _)
  | case5 => exact List.suffix_refl _

theorem suffix_of_readDigits? {digit : Char → Bool} {s digits rest : List Char}
    (read : readDigits? digit s = some (digits, rest)) : rest <:+ s := by
  unfold readDigits? at read
  split at read
  · cases read
  · split at read
    · cases read
      exact (suffix_of_readRun digit _).trans (List.suffix_cons _ _)
    · cases read

theorem suffix_of_readSign (s : List Char) : (readSign s).2 <:+ s := by
  unfold readSign
  split
  · exact List.suffix_cons _ _
  · exact List.suffix_cons _ _
  · exact List.suffix_refl _

theorem suffix_of_readPrefixed? {s rest : List Char} {n : Nat}
    (read : readPrefixed? s = some (n, rest)) : rest <:+ s := by
  have mapped {digit : Char → Bool} {radix : Nat} {a b : Char} {more : List Char}
      (read : (readDigits? digit more).map (fun found => (numberOf radix found.1, found.2)) =
        some (n, rest)) : rest <:+ a :: b :: more := by
    obtain ⟨⟨digits, after⟩, found, same⟩ := Option.map_eq_some_iff.mp read
    cases same
    exact (suffix_of_readDigits? found).trans (List.suffix_append [a, b] more)
  unfold readPrefixed? at read
  split at read
  · exact mapped read
  · exact mapped read
  · exact mapped read
  · cases read

theorem suffix_of_readWhole? {s digits rest : List Char}
    (read : readWhole? s = some (digits, rest)) : rest <:+ s := by
  unfold readWhole? at read
  split at read
  · cases read
    exact List.suffix_cons _ _
  · exact suffix_of_readDigits? read

theorem suffix_of_readFraction (s : List Char) : (readFraction s).2 <:+ s := by
  unfold readFraction
  split
  · split
    · rename_i found
      exact (suffix_of_readDigits? found).trans (List.suffix_cons _ _)
    · exact List.suffix_refl _
  · exact List.suffix_refl _

theorem suffix_of_readExponent (s : List Char) : (readExponent s).2 <:+ s := by
  unfold readExponent
  split
  · rename_i c rest
    split
    · have left := suffix_of_readSign rest
      dsimp only
      split
      · rename_i found
        exact ((suffix_of_readDigits? found).trans left).trans (List.suffix_cons _ _)
      · exact List.suffix_refl _
    · exact List.suffix_refl _
  · exact List.suffix_refl _

theorem leaves_readNumber? {s : List Char} {found : Read Value}
    (read : readNumber? s = some found) : Leaves s found := by
  unfold readNumber? at read
  split at read
  · rename_i n after prefixed
    cases read
    exact leaves_ok (suffix_of_readPrefixed? prefixed)
  · have signed := suffix_of_readSign s
    dsimp only at read
    split at read
    · cases read
    · rename_i whole rest digits
      have fraction := suffix_of_readFraction rest
      have exponent := suffix_of_readExponent (readFraction rest).2
      have left := (suffix_of_readWhole? digits).trans signed
      split at read
      · cases read
        intro value last made
        cases number : integerOf (readSign s).1 whole with
        | error fault =>
            rw [number] at made
            cases made
        | ok n =>
            rw [number] at made
            cases made
            exact (exponent.trans fraction).trans left
      · cases read
        exact leaves_ok ((exponent.trans fraction).trans left)

theorem suffix_of_readPair? {low high n : Nat} {s rest : List Char}
    (read : readPair? low high s = some (n, rest)) : rest <:+ s := by
  unfold readPair? at read
  split at read
  · dsimp only at read
    split at read
    · cases read
      exact List.suffix_append [_, _] _
    · cases read
  · cases read

theorem suffix_of_after? {c : Char} {s rest : List Char} (read : after? c s = some rest) :
    rest <:+ s := by
  unfold after? at read
  split at read
  · cases read
  · split at read
    · cases read
      exact List.suffix_cons _ _
    · cases read

theorem suffix_of_afterTime? {s rest : List Char} (read : afterTime? s = some rest) :
    rest <:+ s := by
  simp only [afterTime?, Option.bind_eq_bind, Option.bind_eq_some_iff] at read
  obtain ⟨⟨_, s₁⟩, first, s₂, colon, ⟨_, s₃⟩, second, s₄, colon', ⟨_, s₅⟩, third, last⟩ := read
  have left := (suffix_of_readPair? third).trans ((suffix_of_after? colon').trans
    ((suffix_of_readPair? second).trans ((suffix_of_after? colon).trans
      (suffix_of_readPair? first))))
  split at last
  · rename_i c more same
    rw [show s₅ = '.' :: c :: more from same] at last left
    split at last
    · cases last
      exact ((List.dropWhile_suffix _).trans (List.suffix_append [_, _] _)).trans left
    · cases last
      exact left
  · cases last
    exact left

theorem suffix_getD {s : List Char} {found : Option (List Char)}
    (leaves : ∀ rest, found = some rest → rest <:+ s) : found.getD s <:+ s := by
  cases found with
  | none => exact List.suffix_refl s
  | some rest => exact leaves rest rfl

theorem suffix_of_afterOffset (s : List Char) : afterOffset s <:+ s := by
  refine suffix_getD fun rest read => ?_
  simp only [Option.bind_eq_bind, Option.bind_eq_some_iff] at read
  obtain ⟨⟨_, s₁⟩, hour, s₂, colon, ⟨_, s₃⟩, minute, last⟩ := read
  cases last
  exact (suffix_of_readPair? minute).trans
    ((suffix_of_after? colon).trans (suffix_of_readPair? hour))

theorem suffix_of_afterZone (s : List Char) : afterZone s <:+ s := by
  unfold afterZone
  split
  · rename_i c rest
    split
    · exact List.suffix_cons _ _
    · split
      · dsimp only
        split
        · exact (suffix_of_afterOffset rest).trans (List.suffix_cons _ _)
        · exact List.suffix_refl _
      · exact List.suffix_refl _
  · exact List.suffix_refl _

theorem suffix_of_readDate? {s rest : List Char} {date : Nat × Nat × Nat}
    (read : readDate? s = some (date, rest)) : rest <:+ s := by
  simp only [readDate?, Option.bind_eq_bind, Option.bind_eq_some_iff] at read
  obtain ⟨⟨_, s₁⟩, century, ⟨_, s₂⟩, year, s₃, dash, ⟨_, s₄⟩, month, s₅, dash', ⟨_, s₆⟩, day,
    last⟩ := read
  cases last
  exact (suffix_of_readPair? day).trans ((suffix_of_after? dash').trans
    ((suffix_of_readPair? month).trans ((suffix_of_after? dash).trans
      ((suffix_of_readPair? year).trans (suffix_of_readPair? century)))))

theorem suffix_of_afterDayTime (s : List Char) : afterDayTime s <:+ s := by
  unfold afterDayTime
  split
  · split
    · split
      · rename_i more time
        exact ((suffix_of_afterZone more).trans (suffix_of_afterTime? time)).trans
          (List.suffix_cons _ _)
      · exact List.suffix_refl _
    · exact List.suffix_refl _
  · exact List.suffix_refl _

theorem leaves_readMoment? {s : List Char} {found : Read Value}
    (read : readMoment? s = some found) : Leaves s found := by
  unfold readMoment? at read
  split at read
  · rename_i rest date
    dsimp only at read
    cases read
    split
    · exact leaves_ok ((suffix_of_afterDayTime rest).trans (suffix_of_readDate? date))
    · exact leaves_error _
  · obtain ⟨rest, time, rfl⟩ := Option.map_eq_some_iff.mp read
    exact leaves_ok (suffix_of_afterTime? time)

theorem leaves_readSpecial? {s rest : List Char} {value : Value}
    (read : readSpecial? s = some (value, rest)) : rest <:+ s := by
  have signed := suffix_of_readSign s
  unfold readSpecial? at read
  dsimp only at read
  split at read
  · rename_i same
    cases read
    rw [same] at signed
    exact (List.suffix_append [_, _, _] _).trans signed
  · rename_i same
    cases read
    rw [same] at signed
    exact (List.suffix_append [_, _, _] _).trans signed
  · cases read

theorem suffix_of_readTruth? {s rest : List Char} {value : Value}
    (read : readTruth? s = some (value, rest)) : rest <:+ s := by
  unfold readTruth? at read
  split at read
  · cases read
    exact List.suffix_append [_, _, _, _] _
  · cases read
    exact List.suffix_append [_, _, _, _, _] _
  · cases read

theorem leaves_readScalar (s : List Char) : Leaves s (readScalar s) := by
  unfold readScalar
  split
  · rename_i truth
    exact leaves_ok (suffix_of_readTruth? truth)
  · split
    · rename_i moment
      exact leaves_readMoment? moment
    · split
      · rename_i number
        exact leaves_readNumber? number
      · split
        · rename_i special
          exact leaves_ok (leaves_readSpecial? special)
        · exact leaves_error _

/-! ## Arrays and inline tables -/

mutual

theorem suffix_of_skipSpace {s rest : List Char} (skipped : skipSpace s = .ok rest) :
    rest <:+ s := by
  cases s with
  | nil =>
      rw [skipSpace] at skipped
      cases skipped
      exact List.suffix_refl _
  | cons c s =>
      rw [skipSpace] at skipped
      split at skipped
      · exact (suffix_of_skipSpace skipped).trans (List.suffix_cons _ _)
      · split at skipped
        · exact (suffix_of_skipRemark skipped).trans (List.suffix_cons _ _)
        · cases skipped
          exact List.suffix_refl _

theorem suffix_of_skipRemark {s rest : List Char} (skipped : skipRemark s = .ok rest) :
    rest <:+ s := by
  cases s with
  | nil =>
      rw [skipRemark] at skipped
      cases skipped
      exact List.suffix_refl _
  | cons c s =>
      rw [skipRemark] at skipped
      split at skipped
      · exact (suffix_of_skipSpace skipped).trans (List.suffix_cons _ _)
      · split at skipped
        · cases skipped
        · exact (suffix_of_skipRemark skipped).trans (List.suffix_cons _ _)

end

mutual

theorem leaves_readValue (fuel : Nat) (s : List Char) : Leaves s (readValue fuel s) := by
  cases fuel with
  | zero =>
      rw [readValue]
      exact leaves_error _
  | succ fuel =>
      rw [readValue.eq_def]
      dsimp only
      split
      · exact (leaves_readString _).map fun found => rfl
      · exact (leaves_readString _).map fun found => rfl
      · split
        · exact leaves_error _
        · rename_i inside skipped
          have within := (suffix_of_skipSpace skipped).trans (List.suffix_cons '[' _)
          exact ((leaves_readItems fuel inside).mono within).map fun found => rfl
      · rename_i rest
        have within := (List.dropWhile_suffix Text.isGap).trans (List.suffix_cons '\x7b' rest)
        split
        · rename_i after cut
          rw [cut] at within
          exact leaves_ok ((List.suffix_cons _ _).trans within)
        · exact ((leaves_readMembers fuel _ {}).mono within).map fun found => rfl
      · exact leaves_readScalar s

theorem leaves_readItems (fuel : Nat) (s : List Char) : Leaves s (readItems fuel s) := by
  cases fuel with
  | zero =>
      rw [readItems]
      exact leaves_error _
  | succ fuel =>
      rw [readItems.eq_def]
      dsimp only
      split
      · exact leaves_ok (List.suffix_cons _ _)
      · split
        · exact leaves_error _
        · rename_i value rest read
          have left := leaves_readValue fuel s value rest read
          split
          · exact leaves_error _
          · rename_i after skipped
            have later := (suffix_of_skipSpace skipped).trans left
            exact leaves_ok ((List.suffix_cons _ _).trans later)
          · rename_i more skipped
            have later := (suffix_of_skipSpace skipped).trans left
            split
            · exact leaves_error _
            · rename_i next skipped'
              have within := (suffix_of_skipSpace skipped').trans (List.suffix_cons ',' more)
              exact ((leaves_readItems fuel next).mono (within.trans later)).map fun found => rfl
          · exact leaves_error _

theorem leaves_readMembers (fuel : Nat) (s : List Char) (t : Inline) :
    Leaves s (readMembers fuel s t) := by
  cases fuel with
  | zero =>
      rw [readMembers]
      exact leaves_error _
  | succ fuel =>
      rw [readMembers.eq_def]
      dsimp only
      split
      · exact leaves_error _
      · rename_i key value rest read
        have left := leaves_readPair fuel s (key, value) rest read
        split
        · exact leaves_error _
        · rename_i grown added
          have later := (List.dropWhile_suffix Text.isGap).trans left
          split
          · rename_i after cut
            rw [cut] at later
            exact leaves_ok ((List.suffix_cons _ _).trans later)
          · rename_i more cut
            rw [cut] at later
            have within := (List.dropWhile_suffix Text.isGap).trans (List.suffix_cons ',' more)
            exact (leaves_readMembers fuel _ grown).mono (within.trans later)
          · exact leaves_error _

theorem leaves_readPair (fuel : Nat) (s : List Char) : Leaves s (readPair fuel s) := by
  cases fuel with
  | zero =>
      rw [readPair]
      exact leaves_error _
  | succ fuel =>
      rw [readPair.eq_def]
      dsimp only
      split
      · exact leaves_error _
      · rename_i key rest read
        have left := leaves_readKey _ s key _ read
        have within := (List.dropWhile_suffix Text.isGap).trans (List.suffix_cons '=' rest)
        exact ((leaves_readValue fuel _).mono (within.trans left)).map fun found => rfl
      · exact leaves_error _

end

/-! ## Lines -/

theorem suffix_of_afterLine {s rest : List Char} (passed : afterLine s = .ok rest) :
    rest <:+ s := by
  have left := List.dropWhile_suffix Text.isGap (l := s)
  unfold afterLine at passed
  split at passed
  · cases passed
    exact List.nil_suffix
  · rename_i same
    cases passed
    rw [same] at left
    exact (List.suffix_cons _ _).trans left
  · rename_i words same
    rw [same] at left
    split at passed
    · cases passed
    · cases passed
      have within := (List.drop_suffix 1 _).trans (List.dropWhile_suffix (· != '\n') (l := words))
      exact (within.trans (List.suffix_cons _ _)).trans left
  · cases passed

/-- The key of a header, and its closing brackets. -/
theorem leaves_readHeader (s : List Char) : Leaves s.tail (readHeader s) := by
  have keyed {rest : List Char} {key : List String} {after : List Char}
      (read : readKey (rest.length + 1) (rest.dropWhile Text.isGap) = .ok (key, after)) :
      after <:+ rest :=
    (leaves_readKey _ _ key after read).trans (List.dropWhile_suffix _)
  unfold readHeader
  split
  · rename_i rest
    split
    · rename_i read
      exact leaves_ok (((List.suffix_append [_, _] _).trans (keyed read)).trans
        (List.suffix_cons _ _))
    · exact leaves_error _
    · exact leaves_error _
  · rename_i rest _
    split
    · rename_i read
      exact leaves_ok ((List.suffix_cons _ _).trans (keyed read))
    · exact leaves_error _
    · exact leaves_error _
  · exact leaves_error _

theorem length_lt_of_readEntry {s rest : List Char} {item : Item}
    (read : readEntry s = .ok (item, rest)) : rest.length < s.length := by
  unfold readEntry at read
  split at read
  · cases read
  · rename_i key more named
    have left := (leaves_readKey _ s key _ named).length_le
    have start := (List.dropWhile_suffix Text.isGap (l := more)).length_le
    dsimp only at read
    split at read
    · cases read
    · rename_i content after valued
      have later := (leaves_readValue _ _ content after valued).length_le
      obtain ⟨last, passed, same⟩ := exists_of_map_eq_ok read
      cases same
      have ended := (suffix_of_afterLine passed).length_le
      rw [List.length_cons] at left
      omega
  · cases read

theorem length_lt_of_afterLine {s rest : List Char} (passed : afterLine ('#' :: s) = .ok rest) :
    rest.length < ('#' :: s).length := by
  unfold afterLine at passed
  rw [List.dropWhile_cons_of_neg (by decide)] at passed
  simp only at passed
  split at passed
  · cases passed
  · cases passed
    have within := (List.drop_suffix 1 _).trans (List.dropWhile_suffix (· != '\n') (l := s))
    exact Nat.lt_succ_of_le within.length_le

/-- A line is not empty. -/
theorem length_lt_of_readItem {s rest : List Char} {item : Option Item}
    (read : readItem s = .ok (item, rest)) (shown : s ≠ []) : rest.length < s.length := by
  have left := (List.dropWhile_suffix Text.isGap (l := s)).length_le
  unfold readItem at read
  split at read
  · cases read
    exact List.length_pos_iff.mpr shown
  · rename_i same
    cases read
    rw [same, List.length_cons] at left
    exact left
  · rename_i same
    obtain ⟨last, passed, ended⟩ := exists_of_map_eq_ok read
    cases ended
    rw [same] at left
    exact Nat.lt_of_lt_of_le (length_lt_of_afterLine passed) left
  · rename_i same
    split at read
    · cases read
    · rename_i array key more headed
      obtain ⟨last, passed, ended⟩ := exists_of_map_eq_ok read
      cases ended
      have inside := (leaves_readHeader _ _ more headed).length_le
      have later := (suffix_of_afterLine passed).length_le
      rw [same, List.length_cons] at left
      rw [List.tail_cons] at inside
      omega
  · obtain ⟨⟨_, last⟩, passed, ended⟩ := exists_of_map_eq_ok read
    cases ended
    exact Nat.lt_of_lt_of_le (length_lt_of_readEntry passed) left

end CommandDocs.Toml

import CommandDocs.Proofs.Text.Lines
import CommandDocs.Toml.Collections
import CommandDocs.Toml.Layout.Literal
import CommandDocs.Toml.Written
import Mathlib.Data.Nat.Digits.Defs

/-!
# Written integers are read back

A written integer is a sign and digits.  Neither reader takes it for a point in time, a number to
another base or a fraction, whatever ends it.
-/

namespace CommandDocs.Toml

/-- What may follow a value: nothing, or a character that ends a number. -/
def Ends (rest : List Char) : Prop :=
  ∀ c ∈ rest.head?, Layout.endsNumber c = true

theorem isDigit_iff {c : Char} : isDigit c = true ↔ c.isDigit = true := by
  simp [isDigit, Char.isDigit, Char.le_def]

/-! ## Digits and what ends them -/

theorem forall_isDigit {P : Char → Prop} (each : ∀ k : Fin 10, P (Char.ofNat (48 + k.val)))
    {c : Char} (digit : isDigit c = true) : P c := by
  have bounds : 48 ≤ c.toNat ∧ c.toNat ≤ 57 := by
    simpa [isDigit, Char.le_def, UInt32.le_iff_toNat_le] using digit
  have own := each ⟨c.toNat - 48, by omega⟩
  dsimp only at own
  rwa [show 48 + (c.toNat - 48) = c.toNat by omega, Char.ofNat_toNat] at own

theorem mem_of_endsNumber {c : Char} (ends : Layout.endsNumber c = true) :
    c ∈ [' ', '\t', '\n', '#', ',', ']', '\x7d'] := by
  simpa [Layout.endsNumber, isSpaceOrFeed, Text.isGap, or_assoc] using ends

theorem ne_of_endsNumber {c : Char} (ends : Layout.endsNumber c = true) :
    isDigit c = false ∧ c ∉ ['_', '.', ':', '-', '+', 'e', 'E', 'x', 'o', 'b', '0', '"'] := by
  have member := mem_of_endsNumber ends
  simp only [List.mem_cons, List.not_mem_nil, or_false] at member
  rcases member with rfl | rfl | rfl | rfl | rfl | rfl | rfl <;> decide

theorem ne_of_isDigit {c x : Char} (digit : isDigit c = true) (other : isDigit x = false) :
    c ≠ x := by
  rintro rfl
  rw [digit] at other
  cases other

/-- What ends a value opens with none of the characters that go on in a number. -/
theorem Ends.head?_ne {rest : List Char} (ends : Ends rest) {x : Char}
    (inside : x ∈ ['_', '.', ':', '-', '+', 'e', 'E', 'x', 'o', 'b', '0', '"']) :
    rest.head? ≠ some x :=
  fun opens => (ne_of_endsNumber (ends x opens)).2 inside

theorem Ends.not_digit {rest : List Char} (ends : Ends rest) {c : Char} {more : List Char}
    (same : rest = c :: more) : isDigit c = false :=
  (ne_of_endsNumber (ends c (by rw [same]; rfl))).1

section Run

variable {ds rest : List Char} (digits : ∀ c ∈ ds, isDigit c = true) (ends : Ends rest)
include digits ends

theorem readRun_append : readRun isDigit (ds ++ rest) = (ds, rest) := by
  induction ds with
  | nil =>
      cases rest with
      | nil => rfl
      | cons c more =>
          have other := ends.not_digit rfl
          unfold readRun
          split
          · rename_i same
            cases same
          · rename_i same
            cases same
            exact absurd rfl (ends.head?_ne (x := '_') (by decide))
          · rename_i same
            cases same
            rw [other]
            rfl
  | cons d ds ih =>
      have own := digits d List.mem_cons_self
      have later := ih fun c member => digits c (List.mem_cons_of_mem d member)
      rw [List.cons_append, readRun]
      · rw [own, later]
        rfl
      · rintro _ _ rfl _
        cases own

theorem readDigits?_append (nonempty : ds ≠ []) :
    readDigits? isDigit (ds ++ rest) = some (ds, rest) := by
  cases ds with
  | nil => exact absurd rfl nonempty
  | cons d ds =>
      have own := digits d List.mem_cons_self
      have later := readRun_append (fun c member => digits c (List.mem_cons_of_mem d member)) ends
      rw [List.cons_append, readDigits?, own, later]
      rfl

/-- A mark that is not a part of a whole number does not open a run of digits with its end. -/
theorem after?_append {x : Char} (mark : x ∈ [':', '-']) : after? x (ds ++ rest) = none := by
  cases ds with
  | nil =>
      cases rest with
      | nil => rfl
      | cons c more =>
          have apart : c ≠ x := by
            rintro rfl
            refine (ne_of_endsNumber (ends c rfl)).2 ?_
            simp only [List.mem_cons, List.not_mem_nil, or_false] at mark
            rcases mark with rfl | rfl <;> decide
          simp [after?, apart]
  | cons d ds =>
      have apart : d ≠ x := by
        refine ne_of_isDigit (digits d List.mem_cons_self) ?_
        simp only [List.mem_cons, List.not_mem_nil, or_false] at mark
        rcases mark with rfl | rfl <;> decide
      simp [after?, apart]

/-- What follows the first digit of a run is no letter. -/
theorem not_letter_of_append {a x : Char} {more : List Char} (nonempty : ds ≠ [])
    (same : ds ++ rest = a :: x :: more) : x ∉ ['x', 'o', 'b'] := by
  cases ds with
  | nil => exact absurd rfl nonempty
  | cons d ds =>
      have second : ds ++ rest = x :: more := (List.cons.inj same).2
      intro letter
      cases ds with
      | nil =>
          have opens : Layout.endsNumber x = true := ends x (by rw [show rest = _ from second]; rfl)
          refine (ne_of_endsNumber opens).2 ?_
          simp only [List.mem_cons, List.not_mem_nil, or_false] at letter
          rcases letter with rfl | rfl | rfl <;> decide
      | cons e ds =>
          have own : isDigit x = true := by
            rw [← (List.cons.inj second).1]
            exact digits e (by simp)
          simp only [List.mem_cons, List.not_mem_nil, or_false] at letter
          rcases letter with rfl | rfl | rfl <;> exact absurd own (by decide)

/-- Two digits are taken off a run of them. -/
theorem exists_of_readPair? {low high n : Nat} {more : List Char}
    (read : readPair? low high (ds ++ rest) = some (n, more)) :
    ∃ a b tail, ds = a :: b :: tail ∧ more = tail ++ rest := by
  match ds, digits with
  | [], _ =>
      match rest, ends with
      | [], _ => cases read
      | [_], _ => cases read
      | c :: d :: tail, ends => simp [readPair?, ends.not_digit rfl] at read
  | [a], _ =>
      match rest, ends with
      | [], _ => cases read
      | c :: tail, ends => simp [readPair?, ends.not_digit rfl] at read
  | a :: b :: tail, _ =>
      refine ⟨a, b, tail, rfl, ?_⟩
      simp only [List.cons_append, readPair?] at read
      split at read
      · cases read
        rfl
      · cases read

/-- What two digits leave of a run opens with no mark. -/
theorem after?_of_readPair? {low high n : Nat} {more : List Char} {x : Char}
    (mark : x ∈ [':', '-']) (read : readPair? low high (ds ++ rest) = some (n, more)) :
    after? x more = none := by
  obtain ⟨a, b, tail, rfl, rfl⟩ := exists_of_readPair? digits ends read
  exact after?_append (fun c member => digits c (by simp [member])) ends mark

/-- A run of digits with its end is no date. -/
theorem readDate?_append : readDate? (ds ++ rest) = none := by
  unfold readDate?
  cases century : readPair? 0 99 (ds ++ rest) with
  | none => rfl
  | some first =>
      obtain ⟨n, more⟩ := first
      obtain ⟨a, b, tail, rfl, rfl⟩ := exists_of_readPair? digits ends century
      have later : ∀ c ∈ tail, isDigit c = true := fun c member => digits c (by simp [member])
      simp only [Option.bind_eq_bind, Option.bind_some]
      cases year : readPair? 0 99 (tail ++ rest) with
      | none => rfl
      | some second =>
          simp only [Option.bind_some, after?_of_readPair? later ends (x := '-') (by decide) year,
            Option.bind_none]

/-- A run of digits with its end is no time of day. -/
theorem afterTime?_append : afterTime? (ds ++ rest) = none := by
  unfold afterTime?
  cases hour : readPair? 0 23 (ds ++ rest) with
  | none => rfl
  | some first =>
      simp only [Option.bind_eq_bind, Option.bind_some,
        after?_of_readPair? digits ends (x := ':') (by decide) hour, Option.bind_none]

theorem afterClock?_append : Layout.afterClock? (ds ++ rest) = none := by
  unfold Layout.afterClock?
  cases hour : readPair? 0 23 (ds ++ rest) with
  | none => rfl
  | some first =>
      simp only [Option.bind_eq_bind, Option.bind_some,
        after?_of_readPair? digits ends (x := ':') (by decide) hour, Option.bind_none]

end Run

/-! ## Decimal numbers -/

theorem isDigit_of_mem_toDigits {m : Nat} : ∀ c ∈ Nat.toDigits 10 m, isDigit c = true :=
  fun _ member => isDigit_iff.mpr (Nat.isDigit_of_mem_toDigits (by decide) (by decide) member)

theorem hexValue?_of_isDigit {c : Char} (digit : isDigit c = true) :
    hexValue? c = some (c.toNat - 48) :=
  if_pos digit

theorem numberOf_toDigits (m : Nat) : numberOf 10 (Nat.toDigits 10 m) = m := by
  have same (ds : List Char) (digits : ∀ c ∈ ds, isDigit c = true) (total : Nat) :
      ds.foldl (fun total c => total * 10 + (hexValue? c).getD 0) total =
        Nat.ofDigitChars 10 ds total := by
    induction ds generalizing total with
    | nil => rfl
    | cons d ds ih =>
        have own := hexValue?_of_isDigit (digits d List.mem_cons_self)
        rw [List.foldl_cons, Nat.ofDigitChars_cons, own,
          ih fun c member => digits c (List.mem_cons_of_mem d member)]
        congr 1
        rw [Nat.mul_comm]
        rfl
  exact (same _ isDigit_of_mem_toDigits 0).trans Nat.ofDigitChars_ten_toDigits

theorem toDigits_of_head_zero {m : Nat} {more : List Char}
    (zero : Nat.toDigits 10 m = '0' :: more) : m = 0 := by
  induction m using Nat.strongRecOn generalizing more with
  | _ m ih =>
      rw [Nat.toDigits_eq_if (by decide)] at zero
      split at zero
      · rename_i small
        have first := (List.cons.inj zero).1
        have each : ∀ k : Fin 10, Nat.digitChar k.val = '0' → k.val = 0 := by decide
        exact each ⟨m, small⟩ first
      · rename_i large
        cases higher : Nat.toDigits 10 (m / 10) with
        | nil => exact absurd higher Nat.toDigits_ne_nil
        | cons c tail =>
            rw [higher, List.cons_append] at zero
            rw [(List.cons.inj zero).1] at higher
            have none := ih (m / 10) (by omega) higher
            omega

theorem length_toDigits_le {m limit : Nat} (positive : 0 < limit) (small : m < 10 ^ limit) :
    (Nat.toDigits 10 m).length ≤ limit :=
  (Nat.length_toDigits_le_iff (by decide) positive).mpr small

theorem writeInteger_eq (n : Int) :
    writeInteger n = (if n < 0 then ['-'] else []) ++ Nat.toDigits 10 n.natAbs := by
  cases n with
  | ofNat m =>
      have plain : toString (Int.ofNat m) = toString m := rfl
      rw [writeInteger, plain, Nat.toString_eq_ofList_toDigits, String.toList_ofList,
        if_neg (by simp)]
      rfl
  | negSucc m =>
      have signed : toString (Int.negSucc m) = "-" ++ toString (m + 1) := rfl
      rw [writeInteger, signed, String.toList_append, Nat.toString_eq_ofList_toDigits,
        if_pos (Int.negSucc_lt_zero m)]
      exact congrArg (['-'] ++ ·) String.toList_ofList

/-! ## The strict reader -/

section Strict

variable {rest : List Char} (ends : Ends rest)
include ends

theorem readFraction_ends : readFraction rest = ([], rest) := by
  unfold readFraction
  split
  · exact absurd rfl (ends.head?_ne (x := '.') (by decide))
  · rfl

theorem readExponent_ends : readExponent rest = ([], rest) := by
  cases rest with
  | nil => rfl
  | cons c more =>
      have small : c ≠ 'e' := fun same => ends.head?_ne (x := 'e') (by decide) (by rw [same]; rfl)
      have large : c ≠ 'E' := fun same => ends.head?_ne (x := 'E') (by decide) (by rw [same]; rfl)
      simp [readExponent, small, large]

theorem readWhole?_toDigits (m : Nat) :
    readWhole? (Nat.toDigits 10 m ++ rest) = some (Nat.toDigits 10 m, rest) := by
  by_cases zero : m = 0
  · rw [zero]
    rfl
  · unfold readWhole?
    split
    · rename_i more same
      cases digits : Nat.toDigits 10 m with
      | nil => exact absurd digits Nat.toDigits_ne_nil
      | cons d ds =>
          rw [digits, List.cons_append] at same
          rw [(List.cons.inj same).1] at digits
          exact absurd (toDigits_of_head_zero digits) zero
    · exact readDigits?_append isDigit_of_mem_toDigits ends Nat.toDigits_ne_nil

/-- Decimal digits have no mark of another base. -/
theorem readPrefixed?_toDigits (m : Nat) : readPrefixed? (Nat.toDigits 10 m ++ rest) = none := by
  have letterless {x : Char} {more : List Char}
      (same : Nat.toDigits 10 m ++ rest = '0' :: x :: more) : x ∉ ['x', 'o', 'b'] :=
    not_letter_of_append isDigit_of_mem_toDigits ends Nat.toDigits_ne_nil same
  unfold readPrefixed?
  split
  · rename_i same
    exact absurd (by decide) (letterless same)
  · rename_i same
    exact absurd (by decide) (letterless same)
  · rename_i same
    exact absurd (by decide) (letterless same)
  · rfl

end Strict

theorem isWritable_iff {n : Int} :
    Text.isWritable n = true ↔ n.natAbs < 10 ^ Text.digitLimit := by
  rw [Text.isWritable, decide_eq_true_iff, Nat.pow_eq]

theorem length_toDigits_of_isWritable {n : Int} (writable : Text.isWritable n = true) :
    (Nat.toDigits 10 n.natAbs).length ≤ Text.digitLimit :=
  length_toDigits_le (by decide) (isWritable_iff.mp writable)

theorem integerOf_toDigits {n : Int} (writable : Text.isWritable n = true) :
    integerOf (if n < 0 then ['-'] else []) (Nat.toDigits 10 n.natAbs) = .ok (.integer n) := by
  have small := length_toDigits_of_isWritable writable
  unfold integerOf
  rw [if_neg (by omega), numberOf_toDigits]
  split
  · rename_i negative
    simp only [beq_self_eq_true, if_true]
    rw [show -(n.natAbs : Int) = n by omega]
  · rename_i positive
    simp only [show (([] : List Char) == ['-']) = false from rfl, Bool.false_eq_true, if_false]
    rw [show (n.natAbs : Int) = n by omega]

theorem exists_toDigits_eq_cons (m : Nat) :
    ∃ d ds, Nat.toDigits 10 m = d :: ds ∧ isDigit d = true := by
  obtain ⟨d, ds, same⟩ := List.exists_cons_of_ne_nil (Nat.toDigits_ne_nil (n := m) (b := 10))
  exact ⟨d, ds, same, isDigit_of_mem_toDigits d (by rw [same]; exact List.mem_cons_self)⟩

/-- A written integer holds nothing but a sign and digits. -/
theorem mem_writeInteger {n : Int} {c : Char} (member : c ∈ writeInteger n) :
    c = '-' ∨ isDigit c = true := by
  rw [writeInteger_eq, List.mem_append] at member
  rcases member with sign | digit
  · split at sign
    · exact Or.inl (List.mem_singleton.mp sign)
    · cases sign
  · exact Or.inr (isDigit_of_mem_toDigits c digit)

theorem exists_writeInteger_eq_cons (n : Int) :
    ∃ c s, writeInteger n = c :: s ∧ (c = '-' ∨ isDigit c = true) := by
  cases same : writeInteger n with
  | nil =>
      rw [writeInteger_eq] at same
      exact absurd (List.append_eq_nil_iff.mp same).2 Nat.toDigits_ne_nil
  | cons c s => exact ⟨c, s, rfl, mem_writeInteger (by rw [same]; exact List.mem_cons_self)⟩

/-- A word needs its first letter. -/
theorem readTruth?_of_ne {c : Char} (apart : c ≠ 't' ∧ c ≠ 'f') (s : List Char) :
    readTruth? (c :: s) = none := by
  unfold readTruth?
  split
  · rename_i same
    exact absurd (List.cons.inj same).1 apart.1
  · rename_i same
    exact absurd (List.cons.inj same).1 apart.2
  · rfl

theorem readSign_of_isDigit {c : Char} (digit : isDigit c = true) (s : List Char) :
    readSign (c :: s) = ([], c :: s) := by
  unfold readSign
  split
  · rename_i same
    exact absurd (List.cons.inj same).1 (ne_of_isDigit digit (by decide))
  · rename_i same
    exact absurd (List.cons.inj same).1 (ne_of_isDigit digit (by decide))
  · rfl

theorem readSign_writeInteger (n : Int) (rest : List Char) :
    readSign (writeInteger n ++ rest) =
      (if n < 0 then ['-'] else [], Nat.toDigits 10 n.natAbs ++ rest) := by
  rw [writeInteger_eq, List.append_assoc]
  split
  · rfl
  · obtain ⟨d, ds, same, first⟩ := exists_toDigits_eq_cons n.natAbs
    rw [same]
    exact readSign_of_isDigit first _

/-- Nothing that opens with a sign is a point in time. -/
theorem readMoment?_of_sign (s : List Char) : readMoment? ('-' :: s) = none := by
  have signed (low high : Nat) : readPair? low high ('-' :: s) = none := by
    cases s with
    | nil => rfl
    | cons c s =>
        rw [readPair?, show isDigit '-' = false by decide]
        rfl
  simp only [readMoment?, readDate?, afterTime?, signed, Option.bind_eq_bind, Option.bind_none,
    Option.map_none]

section Strict

variable {rest : List Char} (ends : Ends rest)
include ends

/-- Digits are read as the integer that they are with their sign. -/
theorem readNumber?_of_whole {n : Int} (writable : Text.isWritable n = true) {s : List Char}
    (plain : readPrefixed? s = none)
    (signed : readSign s =
      (if n < 0 then ['-'] else [], Nat.toDigits 10 n.natAbs ++ rest)) :
    readNumber? s = some (.ok (.integer n, rest)) := by
  unfold readNumber?
  simp only [plain, signed, readWhole?_toDigits ends, readFraction_ends ends, readExponent_ends ends,
    List.isEmpty_nil, Bool.and_self, if_true, integerOf_toDigits writable]
  rfl

theorem readScalar_writeInteger {n : Int} (writable : Text.isWritable n = true) :
    readScalar (writeInteger n ++ rest) = .ok (.integer n, rest) := by
  have digits := isDigit_of_mem_toDigits (m := n.natAbs)
  have signed := readSign_writeInteger n rest
  rw [writeInteger_eq, List.append_assoc] at signed ⊢
  by_cases negative : n < 0
  · rw [if_pos negative, List.singleton_append] at signed ⊢
    have read : readNumber? ('-' :: (Nat.toDigits 10 n.natAbs ++ rest)) =
        some (.ok (.integer n, rest)) :=
      readNumber?_of_whole ends writable rfl (by rw [signed, if_pos negative])
    simp only [readScalar, readTruth?_of_ne (c := '-') (by decide), readMoment?_of_sign, read]
  · rw [if_neg negative, List.nil_append] at signed ⊢
    have timeless : readMoment? (Nat.toDigits 10 n.natAbs ++ rest) = none := by
      rw [readMoment?, readDate?_append digits ends, afterTime?_append digits ends]
      rfl
    obtain ⟨d, ds, same, first⟩ := exists_toDigits_eq_cons n.natAbs
    have wordless : readTruth? (Nat.toDigits 10 n.natAbs ++ rest) = none := by
      rw [same]
      exact readTruth?_of_ne ⟨ne_of_isDigit first (by decide), ne_of_isDigit first (by decide)⟩ _
    have read : readNumber? (Nat.toDigits 10 n.natAbs ++ rest) = some (.ok (.integer n, rest)) :=
      readNumber?_of_whole ends writable (readPrefixed?_toDigits ends _)
        (by rw [signed, if_neg negative])
    simp only [readScalar, wordless, timeless, read]

end Strict

/-! ## The reader that keeps the spelling -/

namespace Layout

theorem endsNumber_of_isDigit {c : Char} (digit : isDigit c = true) : endsNumber c = false := by
  cases ends : endsNumber c with
  | false => rfl
  | true => rw [(ne_of_endsNumber ends).1] at digit; cases digit

/-- A text of characters that do not end a number is cut off where it ends. -/
theorem takeWhile_number {s rest : List Char} (inside : ∀ c ∈ s, endsNumber c = false)
    (ends : Ends rest) : (s ++ rest).takeWhile (fun c => !endsNumber c) = s := by
  refine Text.takeWhile_append_of_head ?_ ?_
  · intro c member
    simp [inside c member]
  · intro c opens
    simp [ends c opens]

theorem joinDigits_of_not_mem (radix : Nat) {ds : List Char} (plain : '_' ∉ ds) :
    joinDigits radix ds = ds := by
  fun_induction joinDigits radix ds with
  | case1 => rfl
  | case2 c => rfl
  | case3 c d rest both ih => simp at plain
  | case4 c d rest other ih => simp at plain
  | case5 c rest single other ih =>
      rw [ih fun member => plain (List.mem_cons_of_mem c member)]

section Digits

variable {ds : List Char} (digits : ∀ c ∈ ds, isDigit c = true)
include digits

theorem not_mem_of_isDigit {x : Char} (other : isDigit x = false) : x ∉ ds :=
  fun member => ne_of_isDigit (digits x member) other rfl

theorem getLast?_ne_of_isDigit {x : Char} (other : isDigit x = false) : ds.getLast? ≠ some x :=
  fun same => not_mem_of_isDigit digits other (List.mem_of_getLast? same)

/-- Digits are a whole number, unless there are too many of them. -/
theorem isInteger_of_isDigit (nonempty : ds ≠ []) (short : ds.length ≤ Text.digitLimit) :
    isInteger 10 ds = true := by
  have below : ∀ c ∈ ds, isDigitBelow 10 c = true := fun c member =>
    forall_isDigit (P := fun c => isDigitBelow 10 c = true) (by decide) (digits c member)
  have filled : ds.isEmpty = false := by simpa using nonempty
  simp [isInteger, filled, short, List.all_eq_true.mpr below]

end Digits

section Whole

variable (m : Nat)

theorem not_letter_of_toDigits {a x : Char} {more : List Char}
    (same : Nat.toDigits 10 m = a :: x :: more) : x ∉ ['x', 'o', 'b'] := by
  have whole : Nat.toDigits 10 m ++ [] = a :: x :: more := by rw [List.append_nil, same]
  exact not_letter_of_append isDigit_of_mem_toDigits (fun _ none => by cases none)
    Nat.toDigits_ne_nil whole

theorem radixOf_toDigits : radixOf (Nat.toDigits 10 m) = 10 := by
  unfold radixOf
  split
  · rename_i same
    exact absurd (by decide) (not_letter_of_toDigits m same)
  · rename_i same
    exact absurd (by decide) (not_letter_of_toDigits m same)
  · rename_i same
    exact absurd (by decide) (not_letter_of_toDigits m same)
  · rfl

theorem hasIdleZero_toDigits : hasIdleZero (Nat.toDigits 10 m) = false := by
  unfold hasIdleZero
  split
  · rename_i same
    rw [toDigits_of_head_zero same] at same
    cases same
  · rfl

theorem joinDigits_toDigits : joinDigits 10 (Nat.toDigits 10 m) = Nat.toDigits 10 m :=
  joinDigits_of_not_mem 10 (not_mem_of_isDigit isDigit_of_mem_toDigits (by decide))

theorem endsInPoint_toDigits : endsInPoint 10 (Nat.toDigits 10 m) = false := by
  have digits := isDigit_of_mem_toDigits (m := m)
  have whole : (Nat.toDigits 10 m).takeWhile (fun c => c != 'e' && c != 'E') =
      Nat.toDigits 10 m := by
    refine List.takeWhile_eq_self_iff.mpr ?_
    intro c member
    have small := ne_of_isDigit (digits c member) (x := 'e') (by decide)
    have large := ne_of_isDigit (digits c member) (x := 'E') (by decide)
    simp [small, large]
  have last : ((Nat.toDigits 10 m).getLast? == some '.') = false := by
    simpa using getLast?_ne_of_isDigit digits (x := '.') (by decide)
  rw [endsInPoint, whole, last]
  rfl

theorem dropEndWhile_toDigits :
    Text.dropEndWhile Text.surroundsNumber (Nat.toDigits 10 m) = Nat.toDigits 10 m := by
  refine List.rdropWhile_eq_self_iff.mpr ?_
  intro nonempty
  have own := isDigit_of_mem_toDigits _ (List.getLast_mem nonempty)
  exact Bool.eq_false_iff.mp (forall_isDigit (P := fun c => Text.surroundsNumber c = false)
    (by decide) own)

end Whole

theorem isNumber_writeInteger {n : Int} (writable : Text.isWritable n = true) :
    isNumber (writeInteger n) = true := by
  have digits := isDigit_of_mem_toDigits (m := n.natAbs)
  have short := length_toDigits_of_isWritable writable
  have plain : (Nat.toDigits 10 n.natAbs).contains '_' = false := by simp
  have pointless : (Nat.toDigits 10 n.natAbs).head? ≠ some '.' := fun same =>
    not_mem_of_isDigit digits (by decide) (List.mem_of_head? same)
  have signed := readSign_writeInteger n []
  rw [List.append_nil, List.append_nil] at signed
  simp only [isNumber, signed, radixOf_toDigits, joinDigits_toDigits, hasIdleZero_toDigits,
    dropEndWhile_toDigits, endsInPoint_toDigits, plain,
    isInteger_of_isDigit digits Nat.toDigits_ne_nil short]
  simp [pointless]

section Kept

variable {n : Int} (writable : Text.isWritable n = true) {rest : List Char} (ends : Ends rest)
include writable ends

theorem readNumber_writeInteger :
    readNumber (writeInteger n ++ rest) = .ok (⟨writeInteger n, []⟩, rest) := by
  have inside : ∀ c ∈ writeInteger n, endsNumber c = false := by
    intro c member
    rcases mem_writeInteger member with rfl | digit
    · decide
    · exact endsNumber_of_isDigit digit
  unfold readNumber
  rw [takeWhile_number inside ends]
  dsimp only
  rw [isNumber_writeInteger writable, if_pos rfl, List.drop_left]

/-- A number that opens with a digit is no point in time. -/
theorem readDigits_writeInteger (positive : ¬n < 0) :
    readDigits (writeInteger n ++ rest) = .ok (⟨writeInteger n, []⟩, rest) := by
  have same : writeInteger n = Nat.toDigits 10 n.natAbs := by
    rw [writeInteger_eq, if_neg positive, List.nil_append]
  have digits := isDigit_of_mem_toDigits (m := n.natAbs)
  have nothing : Ends [] := fun _ none => by cases none
  have dateless := readDate?_append digits nothing
  have clockless := afterClock?_append digits nothing
  rw [List.append_nil, ← same] at dateless clockless
  have inside : ∀ c ∈ writeInteger n, endsNumber c = false := fun c member =>
    endsNumber_of_isDigit (digits c (by rwa [← same]))
  have last := readNumber_writeInteger writable ends
  unfold readDigits
  rw [takeWhile_number inside ends]
  simp only [isDate, isDateTime, isClock, afterDate?, dateless, clockless]
  exact last

theorem readValue_writeInteger (fuel depth : Nat) :
    readValue (fuel + 1) depth (writeInteger n ++ rest) = .ok (⟨writeInteger n, []⟩, rest) := by
  obtain ⟨c, s, same, first⟩ := exists_writeInteger_eq_cons n
  have number := readNumber_writeInteger writable ends
  have whole := readDigits_writeInteger writable ends
  rw [same, List.cons_append] at number whole ⊢
  unfold readValue
  rcases first with rfl | digit
  · exact number
  · have apart {x : Char} (other : isDigit x = false) : (c == x) = false := by
      simpa using ne_of_isDigit digit other
    have inside : endsNumber c = false := endsNumber_of_isDigit digit
    have wordless : opensNumber (c :: (s ++ rest)) = false := by
      simp only [opensNumber, List.takeWhile_cons, inside, apart (x := '+') (by decide),
        apart (x := '-') (by decide)]
      simp [ne_of_isDigit digit (x := 'i') (by decide), ne_of_isDigit digit (x := 'n') (by decide)]
    have positive : ¬n < 0 := by
      intro negative
      rw [writeInteger_eq, if_pos negative] at same
      exact ne_of_isDigit digit (x := '-') (by decide) (List.cons.inj same).1.symm
    simp only [apart (x := '"') (by decide), apart (x := '\'') (by decide),
      apart (x := 't') (by decide), apart (x := 'f') (by decide), apart (x := '[') (by decide),
      apart (x := '\x7b') (by decide), wordless, digit, Bool.or_self, Bool.false_eq_true, if_false,
      if_true]
    exact whole positive

end Kept

end Layout

/-- What opens with neither quote nor bracket is no string and no collection. -/
theorem readValue_of_plain (fuel : Nat) {c : Char} (plain : c ∉ ['"', '\'', '[', '\x7b'])
    (s : List Char) : readValue (fuel + 1) (c :: s) = readScalar (c :: s) := by
  simp only [List.mem_cons, List.not_mem_nil, or_false, not_or] at plain
  obtain ⟨double, single, square, curly⟩ := plain
  rw [readValue]
  · intro tail same
    exact double (List.cons.inj same).1
  · intro tail same
    exact single (List.cons.inj same).1
  · intro tail same
    exact square (List.cons.inj same).1
  · intro tail same
    exact curly (List.cons.inj same).1

theorem readValue_writeInteger {n : Int} (writable : Text.isWritable n = true) {rest : List Char}
    (ends : Ends rest) (fuel : Nat) :
    readValue (fuel + 1) (writeInteger n ++ rest) = .ok (.integer n, rest) := by
  have read := readScalar_writeInteger ends writable
  obtain ⟨c, s, same, first⟩ := exists_writeInteger_eq_cons n
  rw [same, List.cons_append] at read ⊢
  have plain : c ∉ ['"', '\'', '[', '\x7b'] := by
    rcases first with rfl | digit
    · decide
    · exact forall_isDigit (P := fun c => c ∉ ['"', '\'', '[', '\x7b']) (by decide) digit
  rw [readValue_of_plain fuel plain, read]

end CommandDocs.Toml

import CommandDocs.Json.Quoted
import CommandDocs.Proofs.Text.Utf16
import CommandDocs.Toml.Strings

/-!
# JSON is read back

A JSON text is one value with white space around it.  A string is a row of UTF-16 units, each of
them written as a character, by a short escape or by its four digits, and it is read if its units
are a text.  Every text is written as a string that is read back, and in ASCII.
-/

namespace CommandDocs.Json

open Text.Quoted (hex)

/-! ## Reading -/

/-- A value; the members of an object stand in the order of the text. -/
inductive Value where
  | null
  | boolean (answer : Bool)
  | number (numeral : List Char)
  | string (text : String)
  | array (items : List Value)
  | object (members : List (String × Value))

/-- White space between the parts of a value. -/
def isSpace (c : Char) : Bool :=
  c == ' ' || c == '\t' || c == '\n' || c == '\r'

/-- A text without the white space that opens it. -/
def skip (s : List Char) : List Char :=
  s.dropWhile isSpace

def shortEscape? : Char → Option Nat
  | '"' => some 0x22
  | '\\' => some 0x5C
  | '/' => some 0x2F
  | 'b' => some 8
  | 'f' => some 12
  | 'n' => some 10
  | 'r' => some 13
  | 't' => some 9
  | _ => none

/-- The units of a string up to its closing quote, and the text after it. -/
def readUnits : List Char → Option (List Nat × List Char)
  | '"' :: rest => some ([], rest)
  | '\\' :: 'u' :: a :: b :: c :: d :: rest =>
      match Toml.hexNumber? [a, b, c, d] with
      | none => none
      | some unit => (readUnits rest).map fun (later, after) => (unit :: later, after)
  | '\\' :: c :: rest =>
      match shortEscape? c with
      | none => none
      | some unit => (readUnits rest).map fun (later, after) => (unit :: later, after)
  | c :: rest =>
      if c.toNat < 0x20 || c == '\\' then none
      else (readUnits rest).map fun (later, after) => (units c ++ later, after)
  | [] => none

/-- The text of some units; half a surrogate pair is no text. -/
def ofUnits? (units : List Nat) : Option (List Char) :=
  (Text.Utf16.decodeFrom .big 0 (units.flatMap Text.Utf16.ByteOrder.big.bytes)).toOption

/-- A string after its opening quote, and the text after it. -/
def readString (s : List Char) : Option (String × List Char) := do
  let (units, rest) ← readUnits s
  let text ← ofUnits? units
  return (String.ofList text, rest)

/-- One digit or more that open a text, and the text after them. -/
def readDigits (s : List Char) : Option (List Char × List Char) :=
  match s.span Char.isDigit with
  | ([], _) => none
  | found => some found

/-- A whole number without needless zeros, and the text after it. -/
def readWhole : List Char → Option (List Char × List Char)
  | '0' :: rest => some (['0'], rest)
  | s => readDigits s

/-- The digits after a point, if there is one, and the text after them. -/
def readFraction : List Char → Option (List Char × List Char)
  | '.' :: rest => (readDigits rest).map fun (digits, after) => ('.' :: digits, after)
  | s => some ([], s)

/-- The power of ten after its letter, if there is one, and the text after it. -/
def readPower : List Char → Option (List Char × List Char)
  | e :: sign :: rest =>
      if e != 'e' && e != 'E' then some ([], e :: sign :: rest)
      else if sign == '+' || sign == '-' then
        (readDigits rest).map fun (digits, after) => (e :: sign :: digits, after)
      else (readDigits (sign :: rest)).map fun (digits, after) => (e :: digits, after)
  | s => some ([], s)

/-- A number as it is written, and the text after it. -/
def readNumeral (s : List Char) : Option (List Char × List Char) := do
  let (sign, s) := match s with
    | '-' :: rest => (['-'], rest)
    | _ => ([], s)
  let (whole, s) ← readWhole s
  let (fraction, s) ← readFraction s
  let (power, s) ← readPower s
  return (sign ++ whole ++ fraction ++ power, s)

/-- The name of a member with its colon, and the text after it. -/
def readName : List Char → Option (String × List Char)
  | '"' :: s =>
      match readString s with
      | none => none
      | some (name, rest) =>
          match skip rest with
          | ':' :: held => some (name, skip held)
          | _ => none
  | _ => none

mutual

/-- A value in a number of steps, and the text after it. -/
def readValue : Nat → List Char → Option (Value × List Char)
  | 0, _ => none
  | steps + 1, s =>
      match s with
      | '"' :: rest => (readString rest).map fun (text, after) => (.string text, after)
      | '[' :: rest =>
          match skip rest with
          | ']' :: after => some (.array [], after)
          | items => (readItems steps items).map fun (items, after) => (.array items, after)
      | '\x7b' :: rest =>
          match skip rest with
          | '\x7d' :: after => some (.object [], after)
          | members =>
              (readMembers steps members).map fun (members, after) => (.object members, after)
      | 'n' :: 'u' :: 'l' :: 'l' :: rest => some (.null, rest)
      | 't' :: 'r' :: 'u' :: 'e' :: rest => some (.boolean true, rest)
      | 'f' :: 'a' :: 'l' :: 's' :: 'e' :: rest => some (.boolean false, rest)
      | s => (readNumeral s).map fun (numeral, after) => (.number numeral, after)

/-- The items of an array up to its closing bracket, and the text after it. -/
def readItems : Nat → List Char → Option (List Value × List Char)
  | 0, _ => none
  | steps + 1, s =>
      match readValue steps s with
      | none => none
      | some (item, rest) =>
          match skip rest with
          | ',' :: more =>
              (readItems steps (skip more)).map fun (items, after) => (item :: items, after)
          | ']' :: after => some ([item], after)
          | _ => none

/-- The members of an object up to its closing brace, and the text after it. -/
def readMembers : Nat → List Char → Option (List (String × Value) × List Char)
  | 0, _ => none
  | steps + 1, s =>
      match readName s with
      | none => none
      | some (name, held) =>
          match readValue steps held with
          | none => none
          | some (value, rest) =>
              match skip rest with
              | ',' :: more =>
                  (readMembers steps (skip more)).map fun (members, after) =>
                    ((name, value) :: members, after)
              | '\x7d' :: after => some ([(name, value)], after)
              | _ => none

end

/-- Reads one value with white space around it.  At most two steps are taken for a character. -/
def read? (s : List Char) : Option Value :=
  match readValue (2 * s.length + 1) (skip s) with
  | none => none
  | some (value, rest) => if (skip rest).isEmpty then some value else none

/-! ## Four digits -/

/-- The last digit stands apart. -/
theorem hex_succ {width : Nat} (positive : 0 < width) (n : Nat) :
    hex (width + 1) n = hex width (n / 16) ++ [Nat.digitChar (n % 16)] := by
  unfold hex
  dsimp only
  have digits : Nat.toDigits 16 n = _ := Nat.toDigits_eq_if (by decide)
  rw [digits]
  split
  · rename_i small
    have zero : Nat.toDigits 16 0 = ['0'] := rfl
    rw [Nat.div_eq_of_lt small, Nat.mod_eq_of_lt small, zero, List.length_singleton,
      List.length_singleton, Nat.add_sub_cancel, ← List.replicate_succ',
      Nat.sub_add_cancel positive]
  · rw [List.length_append, List.length_singleton, Nat.add_sub_add_right, List.append_assoc]

theorem hex_one {n : Nat} (small : n < 16) : hex 1 n = [Nat.digitChar n] := by
  unfold hex
  rw [Nat.toDigits_of_lt_base small]
  rfl

theorem hexValue?_digitChar {n : Nat} (small : n < 16) :
    Toml.hexValue? (Nat.digitChar n) = some n := by
  have each : ∀ k : Fin 16, Toml.hexValue? (Nat.digitChar k.val) = some k.val := by decide
  exact each ⟨n, small⟩

theorem toNat_digitChar_lt {n : Nat} (small : n < 16) : (Nat.digitChar n).toNat < 0x80 := by
  have each : ∀ k : Fin 16, (Nat.digitChar k.val).toNat < 0x80 := by decide
  exact each ⟨n, small⟩

/-- A unit is written by four digits that denote it. -/
theorem exists_hex {n : Nat} (small : n < 0x10000) :
    ∃ a b c d, hex 4 n = [a, b, c, d] ∧ Toml.hexNumber? [a, b, c, d] = some n ∧
      ∀ x ∈ [a, b, c, d], x.toNat < 0x80 := by
  refine ⟨Nat.digitChar (n / 16 / 16 / 16), Nat.digitChar (n / 16 / 16 % 16),
    Nat.digitChar (n / 16 % 16), Nat.digitChar (n % 16), ?_, ?_, ?_⟩
  · rw [hex_succ (by decide), hex_succ (by decide), hex_succ (by decide),
      hex_one (by omega)]
    rfl
  · simp only [Toml.hexNumber?, List.foldlM_cons, List.foldlM_nil,
      hexValue?_digitChar (show n / 16 / 16 / 16 < 16 by omega),
      hexValue?_digitChar (Nat.mod_lt _ (show 0 < 16 by decide)), Option.map_some,
      Option.bind_eq_bind, Option.bind_some, Option.pure_def, Option.some.injEq]
    omega
  · simp only [List.forall_mem_cons, List.not_mem_nil, false_implies, implies_true, and_true]
    exact ⟨toNat_digitChar_lt (by omega), toNat_digitChar_lt (by omega),
      toNat_digitChar_lt (by omega), toNat_digitChar_lt (by omega)⟩

/-! ## One character -/

/-- How a character is written: by a short escape, by its units, or as it stands. -/
inductive WrittenAs (c : Char) : List Char → Prop where
  | short (letter : Char) (means : shortEscape? letter = some c.toNat) (one : units c = [c.toNat])
      (ascii : letter.toNat < 0x80) : WrittenAs c ['\\', letter]
  | digits : WrittenAs c ((units c).flatMap fun n => '\\' :: 'u' :: hex 4 n)
  | plain (quote : c ≠ '"') (slash : c ≠ '\\') (low : 0x20 ≤ c.toNat) (high : c.toNat < 0x7F) :
      WrittenAs c [c]

theorem writtenAs_escapeChar (c : Char) : WrittenAs c (escapeChar c) := by
  unfold escapeChar
  split
  · rename_i own
    rw [beq_iff_eq.mp own]
    exact .short '"' rfl rfl (by decide)
  split
  · rename_i own
    rw [beq_iff_eq.mp own]
    exact .short '\\' rfl rfl (by decide)
  split
  · rename_i own
    rw [beq_iff_eq.mp own]
    exact .short 'n' rfl rfl (by decide)
  split
  · rename_i own
    rw [beq_iff_eq.mp own]
    exact .short 'r' rfl rfl (by decide)
  split
  · rename_i own
    rw [beq_iff_eq.mp own]
    exact .short 't' rfl rfl (by decide)
  split
  · rename_i own
    have same := beq_iff_eq.mp own
    exact .short 'b' (by rw [same]; rfl) (by simp [units, same]) (by decide)
  split
  · rename_i own
    have same := beq_iff_eq.mp own
    exact .short 'f' (by rw [same]; rfl) (by simp [units, same]) (by decide)
  split
  · rename_i quote slash _ _ _ _ _ shown
    rw [Bool.and_eq_true, decide_eq_true_eq, decide_eq_true_eq] at shown
    exact .plain (by simpa using quote) (by simpa using slash) shown.1 shown.2
  · exact .digits

theorem units_lt {c : Char} {n : Nat} (member : n ∈ units c) : n < 0x10000 := by
  have small : c.toNat < 0x110000 := by
    have valid : c.toNat < 0xD800 ∨ 0xDFFF < c.toNat ∧ c.toNat < 0x110000 := c.valid
    omega
  unfold units at member
  dsimp only at member
  split at member
  · rename_i one
    rwa [List.mem_singleton.mp member]
  · simp only [List.mem_cons, List.not_mem_nil, or_false] at member
    omega

/-- What is written is ASCII. -/
theorem toNat_lt_of_mem_escapeChar {c x : Char} (member : x ∈ escapeChar c) : x.toNat < 0x80 := by
  have written := writtenAs_escapeChar c
  generalize escapeChar c = text at written member
  cases written with
  | short letter means one ascii =>
      simp only [List.mem_cons, List.not_mem_nil, or_false] at member
      rcases member with rfl | rfl
      · decide
      · exact ascii
  | digits =>
      obtain ⟨n, own, inside⟩ := List.mem_flatMap.mp member
      obtain ⟨a, b, c, d, four, _, ascii⟩ := exists_hex (units_lt own)
      rw [four] at inside
      rcases List.mem_cons.mp inside with rfl | inside
      · decide
      rcases List.mem_cons.mp inside with rfl | inside
      · decide
      exact ascii x inside
  | plain quote slash low high =>
      rw [List.mem_singleton.mp member]
      omega

/-! ## Strings -/

theorem readUnits_digits {n : Nat} (small : n < 0x10000) (rest : List Char) :
    readUnits ('\\' :: 'u' :: hex 4 n ++ rest) =
      (readUnits rest).map fun (later, after) => (n :: later, after) := by
  obtain ⟨a, b, c, d, four, means, _⟩ := exists_hex small
  rw [four]
  simp only [List.cons_append, List.nil_append, readUnits, means]

theorem readUnits_escapeChar (c : Char) (rest : List Char) :
    readUnits (escapeChar c ++ rest) =
      (readUnits rest).map fun (later, after) => (units c ++ later, after) := by
  have written := writtenAs_escapeChar c
  generalize escapeChar c = text at written
  cases written with
  | short letter means one ascii =>
      have other : letter ≠ 'u' := by
        rintro rfl
        cases means
      rw [one, List.cons_append, List.cons_append, List.nil_append, readUnits, means]
      · rfl
      · rintro a b c d after rfl _
        exact other rfl
  | digits =>
      have all (ns : List Nat) (small : ∀ n ∈ ns, n < 0x10000) :
          readUnits ((ns.flatMap fun n => '\\' :: 'u' :: hex 4 n) ++ rest) =
            (readUnits rest).map fun (later, after) => (ns ++ later, after) := by
        induction ns with
        | nil => simp
        | cons n ns ih =>
            obtain ⟨first, others⟩ := List.forall_mem_cons.mp small
            rw [List.flatMap_cons, List.append_assoc, readUnits_digits first, ih others]
            cases readUnits rest <;> rfl
      exact all (units c) fun n member => units_lt member
  | plain quote slash low high =>
      have one : units c = [c.toNat] := by
        rw [units]
        simp [show c.toNat < 0x10000 by omega]
      rw [List.cons_append, List.nil_append, readUnits]
      · simp [slash, Nat.not_lt.mpr low]
      · exact quote
      · rintro a b c d after rfl _
        exact slash rfl
      · rintro e after rfl _
        exact slash rfl

theorem readUnits_flatMap (s rest : List Char) :
    readUnits (s.flatMap escapeChar ++ '"' :: rest) = some (s.flatMap units, rest) := by
  induction s with
  | nil => rfl
  | cons c s ih =>
      rw [List.flatMap_cons, List.append_assoc, readUnits_escapeChar, ih]
      rfl

theorem bytes_units (c : Char) : (units c).flatMap Text.Utf16.ByteOrder.big.bytes =
    Text.Utf16.encodeChar .big c := by
  unfold units Text.Utf16.encodeChar
  dsimp only
  split
  · simp
  · simp

/-- The units of a text are those of that text alone. -/
theorem ofUnits?_flatMap_units (s : List Char) : ofUnits? (s.flatMap units) = some s := by
  have bytes : (s.flatMap units).flatMap Text.Utf16.ByteOrder.big.bytes =
      Text.Utf16.encode .big s := by
    simp only [List.flatMap_assoc, bytes_units]
    rfl
  rw [ofUnits?, bytes, Text.Utf16.decodeFrom_encode]
  rfl

/-- A text that is written as a string is read back in front of anything else. -/
theorem readString_flatMap (s rest : List Char) :
    readString (s.flatMap escapeChar ++ '"' :: rest) = some (String.ofList s, rest) := by
  rw [readString, readUnits_flatMap]
  simp only [Option.bind_eq_bind, Option.bind_some, ofUnits?_flatMap_units, Option.pure_def]

theorem toNat_lt_of_mem_quote {s : List Char} {x : Char} (member : x ∈ quote s) :
    x.toNat < 0x80 := by
  rw [quote, List.cons_append, List.mem_cons, List.mem_append, List.mem_singleton] at member
  rcases member with rfl | inside | rfl
  · decide
  · obtain ⟨c, _, own⟩ := List.mem_flatMap.mp inside
    exact toNat_lt_of_mem_escapeChar own
  · decide

/-! ## Strings as values and as names -/

theorem skip_of_head {c : Char} (shown : isSpace c = false) (s : List Char) :
    skip (c :: s) = c :: s := by
  rw [skip, List.dropWhile_cons_of_neg (by simp [shown])]

theorem skip_cons {c : Char} (blank : isSpace c = true) (s : List Char) :
    skip (c :: s) = skip s := by
  rw [skip, skip, List.dropWhile_cons_of_pos blank]

theorem quote_append (s rest : List Char) :
    quote s ++ rest = '"' :: (s.flatMap escapeChar ++ '"' :: rest) := by
  rw [quote, List.cons_append, List.cons_append, List.append_assoc, List.singleton_append]

theorem skip_quote (s rest : List Char) : skip (quote s ++ rest) = quote s ++ rest := by
  rw [quote_append, skip_of_head (by decide)]

theorem readValue_quote (steps : Nat) (text : String) (rest : List Char) :
    readValue (steps + 1) (quote text.toList ++ rest) = some (.string text, rest) := by
  have read := readString_flatMap text.toList rest
  rw [String.ofList_toList] at read
  rw [quote_append, readValue, read]
  rfl

theorem readName_quote (name : String) (held : List Char) :
    readName (quote name.toList ++ ':' :: held) = some (name, skip held) := by
  have read := readString_flatMap name.toList (':' :: held)
  rw [String.ofList_toList] at read
  rw [quote_append, readName, read]
  dsimp only
  rw [skip_of_head (by decide)]
  rfl

theorem readValue_object (steps : Nat) {s more : List Char} (opened : skip s = '"' :: more) :
    readValue (steps + 1) ('\x7b' :: s) =
      (readMembers steps ('"' :: more)).map fun (members, after) => (.object members, after) := by
  rw [readValue, opened]
  rfl

end CommandDocs.Json

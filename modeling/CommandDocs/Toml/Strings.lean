import CommandDocs.Text.Line
import CommandDocs.Toml.Value

/-!
# Strings and keys

A basic string has escapes, a literal string has none; either can run over several lines between
tripled quotes. Bare keys are made of letters, digits, underscores and hyphens.
-/

namespace CommandDocs.Toml

/-- A control character of ASCII; tabs are allowed where text is. -/
def isIllegal (c : Char) : Bool :=
  (c.toNat < 32 && c != '\t') || c.toNat == 127

/-- A character that ends a line or is not allowed on one. -/
def isIllegalLong (c : Char) : Bool :=
  isIllegal c && c != '\n'

def hexValue? (c : Char) : Option Nat :=
  if '0' ≤ c && c ≤ '9' then some (c.toNat - 48)
  else if 'a' ≤ c && c ≤ 'f' then some (c.toNat - 87)
  else if 'A' ≤ c && c ≤ 'F' then some (c.toNat - 55)
  else none

/-- The value of a run of hexadecimal digits. -/
def hexNumber? (digits : List Char) : Option Nat :=
  digits.foldlM (fun total c => (hexValue? c).map (total * 16 + ·)) 0

/-- The character with a hexadecimal code point; surrogates and values that are too large are
none. -/
def scalar? (digits : List Char) : Option Char :=
  match hexNumber? digits with
  | none => none
  | some n => if n < 0xD800 || (0xE000 ≤ n && n < 0x110000) then some (Char.ofNat n) else none

def shortEscape? : Char → Option Char
  | 'b' => some '\x08'
  | 't' => some '\t'
  | 'n' => some '\n'
  | 'f' => some '\x0C'
  | 'r' => some '\r'
  | '"' => some '"'
  | '\\' => some '\\'
  | _ => none

/-- The character of the escape whose text after the backslash opens a text, and the rest. -/
def readEscape : List Char → Read Char
  | 'u' :: a :: b :: c :: d :: rest =>
      match scalar? [a, b, c, d] with
      | some x => .ok (x, rest)
      | none => misfit
  | 'U' :: a :: b :: c :: d :: e :: f :: g :: h :: rest =>
      match scalar? [a, b, c, d, e, f, g, h] with
      | some x => .ok (x, rest)
      | none => misfit
  | c :: rest =>
      match shortEscape? c with
      | some x => .ok (x, rest)
      | none => misfit
  | [] => misfit

theorem readEscape_shorter {s rest : List Char} {x : Char} (h : readEscape s = .ok (x, rest)) :
    rest.length < s.length := by
  unfold readEscape at h
  split at h
  · split at h
    · simp only [Except.ok.injEq, Prod.mk.injEq] at h
      simp only [← h.2, List.length_cons]
      omega
    · simp [misfit] at h
  · split at h
    · simp only [Except.ok.injEq, Prod.mk.injEq] at h
      simp only [← h.2, List.length_cons]
      omega
    · simp [misfit] at h
  · split at h
    · simp only [Except.ok.injEq, Prod.mk.injEq] at h
      simp [← h.2]
    · simp [misfit] at h
  · simp [misfit] at h

/-- The text of a basic string up to its closing quote. -/
def readBasic (s : List Char) : Read (List Char) :=
  match s with
  | [] => misfit
  | '"' :: rest => .ok ([], rest)
  | '\\' :: rest =>
      match h : readEscape rest with
      | .error fault => .error fault
      | .ok (x, more) =>
          have := readEscape_shorter h
          (readBasic more).map fun (text, after) => (x :: text, after)
  | c :: rest =>
      if isIllegal c then misfit
      else (readBasic rest).map fun (text, after) => (c :: text, after)
termination_by s.length
decreasing_by
  all_goals simp_wf
  all_goals omega

/-- The text of a literal string up to its closing quote. -/
def readLiteral : List Char → Read (List Char)
  | [] => misfit
  | c :: rest =>
      if c == '\'' then .ok ([], rest)
      else if isIllegal c then misfit
      else (readLiteral rest).map fun (text, after) => (c :: text, after)

/-- At most two more quotes belong to a string that ends in three of them. -/
def readQuotes (quote : Char) : List Char → List Char × List Char
  | a :: b :: rest =>
      if a == quote then
        if b == quote then ([quote, quote], rest) else ([quote], b :: rest)
      else ([], a :: b :: rest)
  | [a] => if a == quote then ([quote], []) else ([], [a])
  | [] => ([], [])

def readLongLiteral : List Char → Read (List Char)
  | '\'' :: '\'' :: '\'' :: rest => .ok (readQuotes '\'' rest)
  | [] => misfit
  | c :: rest =>
      if isIllegalLong c then misfit
      else (readLongLiteral rest).map fun (text, after) => (c :: text, after)

def isSpaceOrFeed (c : Char) : Bool :=
  Text.isGap c || c == '\n'

/-- The text after a line end that is escaped, given the text after the backslash. -/
def afterJoin? (s : List Char) : Option (List Char) :=
  match s with
  | [] => none
  | c :: _ =>
      if isSpaceOrFeed c then
        match s.dropWhile Text.isGap with
        | '\n' :: rest => some (rest.dropWhile isSpaceOrFeed)
        | _ => none
      else none

theorem length_dropWhile_le {α : Type} (p : α → Bool) (s : List α) :
    (s.dropWhile p).length ≤ s.length := by
  induction s with
  | nil => simp
  | cons c rest ih =>
      by_cases h : p c
      · simp only [List.dropWhile_cons_of_pos h, List.length_cons]
        omega
      · simp [List.dropWhile_cons_of_neg h]

theorem afterJoin?_shorter {s rest : List Char} (h : afterJoin? s = some rest) :
    rest.length < s.length := by
  unfold afterJoin? at h
  split at h
  · simp at h
  · rename_i c tail
    split at h
    · split at h
      · rename_i more hd
        have first := length_dropWhile_le Text.isGap (c :: tail)
        have second := length_dropWhile_le isSpaceOrFeed more
        simp only [Option.some.injEq] at h
        rw [hd] at first
        simp only [List.length_cons] at first ⊢
        rw [← h]
        omega
      · simp at h
    · simp at h

def readLongBasic (s : List Char) : Read (List Char) :=
  match s with
  | [] => misfit
  | '"' :: '"' :: '"' :: rest => .ok (readQuotes '"' rest)
  | '\\' :: rest =>
      match hj : afterJoin? rest with
      | some more =>
          have := afterJoin?_shorter hj
          readLongBasic more
      | none =>
          match h : readEscape rest with
          | .error fault => .error fault
          | .ok (x, more) =>
              have := readEscape_shorter h
              (readLongBasic more).map fun (text, after) => (x :: text, after)
  | c :: rest =>
      if isIllegalLong c then misfit
      else (readLongBasic rest).map fun (text, after) => (c :: text, after)
termination_by s.length
decreasing_by
  all_goals simp_wf
  all_goals omega

/-- A text without one line feed at its start. -/
def dropFeed : List Char → List Char
  | '\n' :: rest => rest
  | s => s

def readString : List Char → Read (List Char)
  | '"' :: '"' :: '"' :: rest => readLongBasic (dropFeed rest)
  | '"' :: rest => readBasic rest
  | '\'' :: '\'' :: '\'' :: rest => readLongLiteral (dropFeed rest)
  | '\'' :: rest => readLiteral rest
  | _ => misfit

def isBare (c : Char) : Bool :=
  c.isAlphanum || c == '-' || c == '_'

def readKeyPart : List Char → Read String
  | '"' :: rest => (readBasic rest).map fun (text, after) => (String.ofList text, after)
  | '\'' :: rest => (readLiteral rest).map fun (text, after) => (String.ofList text, after)
  | s =>
      match s.takeWhile isBare with
      | [] => misfit
      | part => .ok (String.ofList part, s.dropWhile isBare)

/-- A key of parts between dots, with white space after it; at most `fuel` parts. -/
def readKey : Nat → List Char → Read (List String)
  | 0, _ => misfit
  | fuel + 1, s =>
      match readKeyPart s with
      | .error fault => .error fault
      | .ok (part, after) =>
          match after.dropWhile Text.isGap with
          | '.' :: rest =>
              (readKey fuel (rest.dropWhile Text.isGap)).map fun (parts, more) =>
                (part :: parts, more)
          | rest => .ok ([part], rest)

end CommandDocs.Toml

import CommandDocs.Text.Number
import CommandDocs.Toml.Strings

/-!
# Strings that keep their spelling

A string is cut out of a text by its quotes and then read. An escape may give a character by two,
four or eight characters that denote its code point as a hexadecimal number with the liberties
that numbers have elsewhere: blanks around it, a sign, underscores between its digits.
-/

namespace CommandDocs.Toml.Layout

/-- The text inside a string on one line and what follows its closing quote. -/
def lineBody? (quote : Char) (escapes : Bool) : List Char → Option (List Char × List Char)
  | [] => none
  | c :: rest =>
      if c == quote then some ([], rest)
      else if escapes && c == '\\' then
        match rest with
        | [] => none
        | d :: more =>
            (lineBody? quote escapes more).map fun (body, after) => (c :: d :: body, after)
      else (lineBody? quote escapes rest).map fun (body, after) => (c :: body, after)

/-- The text inside a long string with its closing quotes, and what follows them; `run` quotes
stand before the text. Three quotes close, and one or two before them belong to the string. -/
def longBody? (quote : Char) (escapes : Bool) (run : Nat) :
    List Char → Option (List Char × List Char)
  | [] => if 3 ≤ run && run ≤ 5 then some ([], []) else none
  | c :: rest =>
      if c == quote then
        (longBody? quote escapes (run + 1) rest).map fun (body, after) => (c :: body, after)
      else if 3 ≤ run then if run ≤ 5 then some ([], c :: rest) else none
      else if escapes && c == '\\' then
        match rest with
        | [] => none
        | d :: more =>
            (longBody? quote escapes 0 more).map fun (body, after) => (c :: d :: body, after)
      else (longBody? quote escapes 0 rest).map fun (body, after) => (c :: body, after)

/-- The value of a hexadecimal digit; decimal digits may be of any script. -/
def hexDigit? (c : Char) : Option Nat :=
  match Text.digitValue? c with
  | some value => some value
  | none => hexValue? c

/-- The number that hexadecimal digits denote; single underscores may stand between them. -/
def hexDigits? (total : Nat) : List Char → Option Nat
  | [] => none
  | [c] => (hexDigit? c).map (total * 16 + ·)
  | c :: '_' :: rest => (hexDigit? c).bind fun value => hexDigits? (total * 16 + value) rest
  | c :: rest => (hexDigit? c).bind fun value => hexDigits? (total * 16 + value) rest

/-- Hexadecimal digits without the mark of their base. -/
def dropMark : List Char → List Char
  | '0' :: 'x' :: '_' :: rest => rest
  | '0' :: 'X' :: '_' :: rest => rest
  | '0' :: 'x' :: rest => rest
  | '0' :: 'X' :: rest => rest
  | s => s

/-- Whether four or eight characters begin like a surrogate code point. -/
def opensSurrogate : List Char → Bool
  | a :: b :: _ :: _ => (a == 'd' || a == 'D') && !isOctalDigit b
  | _ => false
where
  /-- A digit below eight. -/
  isOctalDigit (c : Char) : Bool :=
    '0' ≤ c && c ≤ '7'

/-- The code point that the characters of an escape denote. -/
def codePoint? (s : List Char) : Option Nat :=
  if opensSurrogate s then none
  else
    let (negative, digits) := Text.takeSign (Text.trimBoth Text.surroundsNumber s)
    match hexDigits? 0 (dropMark digits) with
    | some n => if n ≤ 0x10FFFF && (!negative || n == 0) then some n else none
    | none => none

/-- How far a string is read: between two characters, perhaps after an escaped line end; after a
backslash; in the white space between a backslash and the line end; or in an escape that lacks
some more characters. -/
inductive Progress where
  | between (joined : Bool)
  | escape
  | lineEnd
  | code (missing : Nat) (found : List Char)
  deriving DecidableEq, Repr

/-- What an escape stands for, given its first character. -/
def escapeOf? : Char → Option (Nat ⊕ Nat)
  | 'x' => some (.inr 2)
  | 'u' => some (.inr 4)
  | 'U' => some (.inr 8)
  | 'e' => some (.inl 0x1B)
  | c => (shortEscape? c).map fun x => .inl x.toNat

/-- The code points of a string, given the text inside its quotes. -/
def points? (escapes long : Bool) : Progress → List Char → Option (List Nat)
  | .between _, [] => some []
  | _, [] => none
  | .code missing found, c :: rest =>
      if missing ≤ 1 then
        (codePoint? (found ++ [c])).bind fun n =>
          (points? escapes long (.between false) rest).map (n :: ·)
      else points? escapes long (.code (missing - 1) (found ++ [c])) rest
  | .escape, c :: rest =>
      if long && isSpaceOrFeed c then
        points? escapes long (if c == '\n' then .between true else .lineEnd) rest
      else
        match escapeOf? c with
        | some (.inl n) => (points? escapes long (.between false) rest).map (n :: ·)
        | some (.inr missing) => points? escapes long (.code missing []) rest
        | none => none
  | .lineEnd, c :: rest =>
      if c == '\n' then points? escapes long (.between true) rest
      else if Text.isGap c then points? escapes long .lineEnd rest
      else none
  | .between joined, c :: rest =>
      if joined && isSpaceOrFeed c then points? escapes long (.between true) rest
      else if escapes && c == '\\' then points? escapes long .escape rest
      else if if long then isIllegalLong c else isIllegal c then none
      else (points? escapes long (.between false) rest).map (c.toNat :: ·)

/-- A string with its code points and its spelling. -/
structure Quoted where
  long : Bool
  points : List Nat
  text : List Char
  deriving DecidableEq, Repr

/-- The string whose opening quote stands before a text, and what follows the string. Only
double quotes take escapes. -/
def readQuoted? (quote : Char) (s : List Char) : Option (Quoted × List Char) :=
  let escapes := quote == '"'
  let found : Option (Bool × List Char × List Char × List Char) :=
    match s with
    | a :: b :: rest =>
        if a == quote && b == quote then
          (longBody? quote escapes 0 rest).map fun (body, after) =>
            (true, body.take (body.length - 3), [a, b] ++ body, after)
        else short escapes s
    | _ => short escapes s
  found.bind fun (long, inside, text, after) =>
    (points? escapes long (.between false) inside).map fun points =>
      (⟨long, points, quote :: text⟩, after)
where
  /-- The string as one on a single line. -/
  short (escapes : Bool) (s : List Char) :
      Option (Bool × List Char × List Char × List Char) :=
    (lineBody? quote escapes s).map fun (body, after) => (false, body, body ++ [quote], after)

end CommandDocs.Toml.Layout

import CommandDocs.Toml.Strings

/-!
# Numbers and points in time

Integers are decimal, hexadecimal, octal or binary; single underscores may stand between digits.
Dates have to exist.
-/

namespace CommandDocs.Toml

def isDigit (c : Char) : Bool :=
  '0' ≤ c && c ≤ '9'

def isOctal (c : Char) : Bool :=
  '0' ≤ c && c ≤ '7'

def isBinary (c : Char) : Bool :=
  c == '0' || c == '1'

/-- A hexadecimal digit. -/
def isHex (c : Char) : Bool :=
  (hexValue? c).isSome

/-- The further digits of a numeral, without the underscores between them, and the rest. -/
def readRun (digit : Char → Bool) : List Char → List Char × List Char
  | [] => ([], [])
  | '_' :: c :: rest =>
      if digit c then
        let (more, after) := readRun digit rest
        (c :: more, after)
      else ([], '_' :: c :: rest)
  | c :: rest =>
      if digit c then
        let (more, after) := readRun digit rest
        (c :: more, after)
      else ([], c :: rest)

/-- The digits of a numeral that opens a text, and the rest; there is at least one. -/
def readDigits? (digit : Char → Bool) : List Char → Option (List Char × List Char)
  | [] => none
  | c :: rest =>
      if digit c then
        let (more, after) := readRun digit rest
        some (c :: more, after)
      else none

def numberOf (radix : Nat) (digits : List Char) : Nat :=
  digits.foldl (fun total c => total * radix + (hexValue? c).getD 0) 0

/-- An integer to a base other than ten, without its sign. -/
def readPrefixed? : List Char → Option (Nat × List Char)
  | '0' :: 'x' :: rest => (readDigits? isHex rest).map fun (ds, after) => (numberOf 16 ds, after)
  | '0' :: 'b' :: rest => (readDigits? isBinary rest).map fun (ds, after) => (numberOf 2 ds, after)
  | '0' :: 'o' :: rest => (readDigits? isOctal rest).map fun (ds, after) => (numberOf 8 ds, after)
  | _ => none

def readSign : List Char → List Char × List Char
  | '+' :: rest => (['+'], rest)
  | '-' :: rest => (['-'], rest)
  | s => ([], s)

/-- The whole part of a decimal number; a leading zero stands alone. -/
def readWhole? : List Char → Option (List Char × List Char)
  | '0' :: rest => some (['0'], rest)
  | s => readDigits? isDigit s

/-- The part of a number after its point; without digits there is none. -/
def readFraction : List Char → List Char × List Char
  | '.' :: rest =>
      match readDigits? isDigit rest with
      | some (digits, after) => ('.' :: digits, after)
      | none => ([], '.' :: rest)
  | s => ([], s)

/-- The exponent of a number; without digits there is none. -/
def readExponent : List Char → List Char × List Char
  | c :: rest =>
      if c == 'e' || c == 'E' then
        let (sign, after) := readSign rest
        match readDigits? isDigit after with
        | some (digits, more) => ('e' :: sign ++ digits, more)
        | none => ([], c :: rest)
      else ([], c :: rest)
  | [] => ([], [])

def integerOf (sign digits : List Char) : Except Fault Value :=
  if digits.length > Text.digitLimit then
    .error (.number (.tooLong digits.length))
  else
    let n : Int := numberOf 10 digits
    .ok (.integer (if sign == ['-'] then -n else n))

/-- The number that opens a text, if one does. -/
def readNumber? (s : List Char) : Option (Read Value) :=
  match readPrefixed? s with
  | some (n, after) => some (.ok (.integer n, after))
  | none =>
      let (sign, unsigned) := readSign s
      match readWhole? unsigned with
      | none => none
      | some (whole, rest) =>
          let (fraction, afterFraction) := readFraction rest
          let (exponent, after) := readExponent afterFraction
          if fraction.isEmpty && exponent.isEmpty then
            some ((integerOf sign whole).map fun value => (value, after))
          else
            some (.ok (.float (String.ofList (sign ++ whole ++ fraction ++ exponent)), after))

/-- The number of two digits that open a text, when it lies between bounds. -/
def readPair? (low high : Nat) : List Char → Option (Nat × List Char)
  | a :: b :: rest =>
      let n := numberOf 10 [a, b]
      if isDigit a && isDigit b && low ≤ n && n ≤ high then some (n, rest) else none
  | _ => none

/-- The rest of a text after a character that has to open it. -/
def after? (c : Char) : List Char → Option (List Char)
  | [] => none
  | a :: rest => if a == c then some rest else none

/-- What follows a time of day with its fraction of a second. -/
def afterTime? (s : List Char) : Option (List Char) := do
  let (_, s) ← readPair? 0 23 s
  let (_, s) ← readPair? 0 59 (← after? ':' s)
  let (_, s) ← readPair? 0 59 (← after? ':' s)
  match s with
  | '.' :: c :: rest => return if isDigit c then rest.dropWhile isDigit else s
  | _ => return s

/-- What follows a distance from universal time. -/
def afterOffset (s : List Char) : List Char :=
  let found : Option (List Char) := do
    let (_, s) ← readPair? 0 23 s
    let (_, s) ← readPair? 0 59 (← after? ':' s)
    return s
  found.getD s

/-- What follows a zone, if one is given. -/
def afterZone : List Char → List Char
  | c :: rest =>
      if c == 'Z' || c == 'z' then rest
      else if c == '+' || c == '-' then
        let more := afterOffset rest
        if more.length < rest.length then more else c :: rest
      else c :: rest
  | [] => []

def isLeap (year : Nat) : Bool :=
  year % 4 == 0 && (year % 100 != 0 || year % 400 == 0)

def daysIn (year month : Nat) : Nat :=
  if month == 2 then (if isLeap year then 29 else 28)
  else if month == 4 || month == 6 || month == 9 || month == 11 then 30
  else 31

def readDate? (s : List Char) : Option ((Nat × Nat × Nat) × List Char) := do
  let (century, s) ← readPair? 0 99 s
  let (year, s) ← readPair? 0 99 s
  let (month, s) ← readPair? 1 12 (← after? '-' s)
  let (day, s) ← readPair? 1 31 (← after? '-' s)
  return ((century * 100 + year, month, day), s)

def afterDayTime (s : List Char) : List Char :=
  match s with
  | c :: rest =>
      if c == 'T' || c == 't' || c == ' ' then
        match afterTime? rest with
        | some more => afterZone more
        | none => s
      else s
  | [] => []

/-- The text between the start of a text and a rest of it. -/
def taken (s rest : List Char) : List Char :=
  s.take (s.length - rest.length)

/-- The point in time that opens a text, if one does. -/
def readMoment? (s : List Char) : Option (Read Value) :=
  match readDate? s with
  | some ((year, month, day), rest) =>
      let after := afterDayTime rest
      some (if 1 ≤ year && day ≤ daysIn year month then
          .ok (.moment (String.ofList (taken s after)), after)
        else misfit)
  | none =>
      (afterTime? s).map fun after => .ok (.moment (String.ofList (taken s after)), after)

/-- The special float that opens a text, if one does. -/
def readSpecial? (s : List Char) : Option (Value × List Char) :=
  let (sign, rest) := readSign s
  match rest with
  | 'i' :: 'n' :: 'f' :: after => some (.float (String.ofList (sign ++ ['i', 'n', 'f'])), after)
  | 'n' :: 'a' :: 'n' :: after => some (.float (String.ofList (sign ++ ['n', 'a', 'n'])), after)
  | _ => none

/-- The word that opens a text, if it is a truth value. -/
def readTruth? : List Char → Option (Value × List Char)
  | 't' :: 'r' :: 'u' :: 'e' :: after => some (.boolean true, after)
  | 'f' :: 'a' :: 'l' :: 's' :: 'e' :: after => some (.boolean false, after)
  | _ => none

/-- The value that opens a text, when it is neither string nor collection. -/
def readScalar (s : List Char) : Read Value :=
  match readTruth? s with
  | some found => .ok found
  | none =>
      match readMoment? s with
      | some found => found
      | none =>
          match readNumber? s with
          | some found => found
          | none =>
              match readSpecial? s with
              | some found => .ok found
              | none => misfit

end CommandDocs.Toml

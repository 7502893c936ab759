import CommandDocs.Toml.Scalars

/-!
# Numbers that keep their spelling

A number reaches up to the next white space, comment, comma or closing bracket. Its digits may be
those of any script and blanks may follow it. A decimal integer has at most as many digits as are
read as a number anywhere.
-/

namespace CommandDocs.Toml.Layout

def endsNumber (c : Char) : Bool :=
  isSpaceOrFeed c || c == '#' || c == ',' || c == ']' || c == '\x7d'

/-- Whether a number starts with a zero that has to stand alone. -/
def hasIdleZero : List Char → Bool
  | '0' :: c :: _ => !(c == '.' || c == 'o' || c == 'x' || c == 'b' || c == 'e')
  | _ => false

/-- The base of a number without its sign. -/
def radixOf : List Char → Nat
  | '0' :: 'b' :: _ => 2
  | '0' :: 'o' :: _ => 8
  | '0' :: 'x' :: _ => 16
  | _ => 10

/-- Whether underscores may stand beside a character. -/
def isPlainDigit (radix : Nat) (c : Char) : Bool :=
  match hexValue? c with
  | some value => value < radix
  | none => false

/-- A number without the underscores that stand between two digits. -/
def joinDigits (radix : Nat) : List Char → List Char
  | [] => []
  | [c] => [c]
  | c :: '_' :: d :: rest =>
      if isPlainDigit radix c && isPlainDigit radix d then c :: joinDigits radix (d :: rest)
      else c :: joinDigits radix ('_' :: d :: rest)
  | c :: rest => c :: joinDigits radix rest

def isDigitBelow (radix : Nat) (c : Char) : Bool :=
  match Text.digitValue? c with
  | some value => value < radix
  | none => isPlainDigit radix c

/-- Whether a number without its sign and without blanks is an integer to a base. -/
def isInteger (radix : Nat) (s : List Char) : Bool :=
  let digits := if radix == 10 then s else s.drop 2
  !digits.isEmpty && digits.all (isDigitBelow radix) &&
    (radix != 10 || digits.length ≤ Text.digitLimit)

def isExponent : List Char → Bool
  | [] => true
  | c :: rest =>
      let digits := (readSign rest).2
      (c == 'e' || c == 'E') && !digits.isEmpty && digits.all Text.isDecimal

/-- Whether a number without its sign and without blanks has a point or an exponent. -/
def isFraction (s : List Char) : Bool :=
  let whole := s.takeWhile Text.isDecimal
  match s.dropWhile Text.isDecimal with
  | '.' :: rest =>
      let decimals := rest.takeWhile Text.isDecimal
      !(whole.isEmpty && decimals.isEmpty) && isExponent (rest.dropWhile Text.isDecimal)
  | [] => false
  | rest => !whole.isEmpty && isExponent rest

/-- Whether a text is a word for infinity or for no number, in either case. -/
def isSpecial (s : List Char) : Bool :=
  let word := String.ofList (s.map Char.toLower)
  word == "inf" || word == "infinity" || word == "nan"

/-- Whether the whole part of a number ends in a point, which has to have decimals. -/
def endsInPoint (radix : Nat) (s : List Char) : Bool :=
  s.getLast? == some '.' ||
    (radix != 16 && (s.takeWhile fun c => c != 'e' && c != 'E').getLast? == some '.')

/-- Whether a text is a number. -/
def isNumber (s : List Char) : Bool :=
  let (sign, unsigned) := readSign s
  let radix := radixOf unsigned
  let joined := joinDigits radix unsigned
  let body := Text.dropEndWhile Text.surroundsNumber joined
  !hasIdleZero unsigned && (sign.isEmpty || (unsigned.head? != some '.' && radix == 10)) &&
    !joined.contains '_' && !endsInPoint radix joined &&
    (isInteger radix body || (radix == 10 && (isFraction body || isSpecial body)))

end CommandDocs.Toml.Layout

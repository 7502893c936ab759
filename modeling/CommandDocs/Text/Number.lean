import CommandDocs.Text.Blank
import CommandDocs.Text.Digit
import CommandDocs.Text.Quoted

/-!
# Whole numbers in text

A number is read from decimal digits of any script. Runs of more than 4300 digits are refused,
leading zeros included, and a number that needs more digits cannot be written.
-/

namespace CommandDocs.Text

/-- The longest run of digits that is read or written as a number. -/
def digitLimit : Nat := 4300

inductive NumberFault where
  | tooLong (digits : Nat)
  | tooLarge
  | invalid (text : List Char)
  deriving DecidableEq, Repr

/-- The words for a fault; of a long text that is no number only the start is shown. -/
def NumberFault.message : NumberFault → String
  | .tooLong digits =>
      "Exceeds the limit (" ++ toString digitLimit ++
        " digits) for integer string conversion: value has " ++ toString digits ++
        " digits; use sys.set_int_max_str_digits() to increase the limit"
  | .tooLarge =>
      "Exceeds the limit (" ++ toString digitLimit ++
        " digits) for integer string conversion; use sys.set_int_max_str_digits() to " ++
        "increase the limit"
  | .invalid text =>
      "invalid literal for int() with base 10: " ++ String.ofList ((Quoted.quote text).take 200)

def readDigits (digits : List Char) : Except NumberFault Nat :=
  if digits.length > digitLimit then .error (.tooLong digits.length)
  else .ok (decimalValue digits)

/-- A character of a numeral: a digit, or an underscore between digits. -/
def isNumeral (c : Char) : Bool :=
  isDecimal c || c == '_'

/-- Whether a run of numeral characters has its underscores one by one between digits. -/
def isSpacedOut : List Char → Bool
  | [] => false
  | [c] => isDecimal c
  | c :: '_' :: rest => isDecimal c && isSpacedOut rest
  | c :: rest => isDecimal c && isSpacedOut rest

/-- The blanks that may surround a number: all but the four separators of files, groups, records
and units. -/
def surroundsNumber (c : Char) : Bool :=
  isBlank c && !(0x1C ≤ c.toNat && c.toNat ≤ 0x1F)

def takeSign : List Char → Bool × List Char
  | '-' :: rest => (true, rest)
  | '+' :: rest => (false, rest)
  | s => (false, s)

/-- Reads an integer: surrounding blanks, an optional sign, and a numeral. A numeral of too many
digits is refused before what follows it is looked at. -/
def readInteger (s : List Char) : Except NumberFault Int :=
  let (negative, body) := takeSign (s.dropWhile surroundsNumber)
  let numeral := body.takeWhile isNumeral
  if !isSpacedOut numeral then .error (.invalid s)
  else
    match readDigits (numeral.filter isDecimal) with
    | .error fault => .error fault
    | .ok n =>
        if (body.dropWhile isNumeral).all surroundsNumber then
          .ok (if negative then -(n : Int) else (n : Int))
        else .error (.invalid s)

/-- Whether a number can be written in digits. -/
def isWritable (n : Int) : Bool :=
  n.natAbs < Nat.pow 10 digitLimit

def writeInteger (n : Int) : Except NumberFault String :=
  if isWritable n then .ok (toString n) else .error .tooLarge

end CommandDocs.Text

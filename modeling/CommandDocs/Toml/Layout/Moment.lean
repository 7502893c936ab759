import CommandDocs.Toml.Scalars

/-!
# Points in time that keep their spelling

Seconds may be left out, and a bar may stand for the plus sign of a distance from universal time.
-/

namespace CommandDocs.Toml.Layout

/-- What follows the date that opens a text; the date has to exist. -/
def afterDate? (s : List Char) : Option (List Char) :=
  match readDate? s with
  | some ((year, month, day), after) =>
      if 1 ≤ year && day ≤ daysIn year month then some after else none
  | none => none

/-- What follows the seconds of a time with their fraction, which may be left out. -/
def afterSeconds? : List Char → Option (List Char)
  | ':' :: rest =>
      match readPair? 0 59 rest with
      | some (_, '.' :: c :: after) => if isDigit c then some (after.dropWhile isDigit) else none
      | some (_, after) => some after
      | none => none
  | s => some s

/-- What follows the time of day that opens a text. -/
def afterClock? (s : List Char) : Option (List Char) := do
  let (_, s) ← readPair? 0 23 s
  let (_, s) ← readPair? 0 59 (← after? ':' s)
  afterSeconds? s

/-- Whether a text is a time zone, or nothing. -/
def isZone : List Char → Bool
  | [] => true
  | c :: rest =>
      if c == 'Z' || c == 'z' then rest.isEmpty
      else (c == '+' || c == '-' || c == '|') && isDistance rest
where
  /-- Whether a text is a distance from universal time. -/
  isDistance (s : List Char) : Bool :=
    let found : Option (List Char) := do
      let (_, s) ← readPair? 0 23 s
      let (_, s) ← readPair? 0 59 (← after? ':' s)
      return s
    found == some []

def isDate (s : List Char) : Bool :=
  afterDate? s == some []

/-- Whether a text is a time of day. -/
def isClock (s : List Char) : Bool :=
  afterClock? s == some []

/-- Whether a text is a date with a time of day. -/
def isDateTime (s : List Char) : Bool :=
  match afterDate? s with
  | some (c :: rest) =>
      (c == 'T' || c == 't' || c == ' ') &&
        match afterClock? rest with
        | some after => isZone after
        | none => false
  | _ => false

end CommandDocs.Toml.Layout

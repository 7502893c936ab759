/-!
# Wildcard patterns

A star stands for any text, a question mark for any character, and brackets for one character
of a set. A set opened by `!` is the complement, a bracket first in the set is a member, and a
bracket that is never closed stands for itself. A hyphen between two members makes a range; a
range that runs backwards is dropped together with its bounds. Matching is case sensitive.
-/

namespace CommandDocs.Text

/-- One step of a pattern; a set is a list of closed ranges. -/
inductive Wildcard where
  | literal (c : Char)
  | anyOne
  | anyText
  | oneOf (complement : Bool) (ranges : List (Char × Char))
  deriving DecidableEq, Repr

namespace Wildcard

/-- A member of a set before ranges are read: a character, or a hyphen that makes a range. -/
inductive SetToken where
  | member (c : Char)
  | hyphen
  deriving DecidableEq, Repr

/-- The text up to the bracket that closes a set, and what follows it. A bracket directly after
the opening, or after its negation mark, does not close the set. -/
def closeSet? (s : List Char) : Option (List Char × List Char) :=
  let (opening, body) := match s with
    | '!' :: ']' :: rest => (['!', ']'], rest)
    | '!' :: rest => (['!'], rest)
    | ']' :: rest => ([']'], rest)
    | _ => ([], s)
  if body.contains ']' then
    some (opening ++ body.takeWhile (· != ']'), (body.dropWhile (· != ']')).drop 1)
  else none

/-- The pieces between the hyphens that make ranges. The first `skip` characters of a piece
belong to it even when they are hyphens. -/
def splitHyphens (piece : List Char) : Nat → List Char → List (List Char)
  | _, [] => [piece]
  | 0, c :: rest =>
      if c == '-' then piece :: splitHyphens [] 2 rest
      else splitHyphens (piece ++ [c]) 0 rest
  | skip + 1, c :: rest => splitHyphens (piece ++ [c]) skip rest

/-- A final hyphen makes no range: it is a member. -/
def closeHyphen : List (List Char) → List (List Char)
  | [] => []
  | [piece, []] => [piece ++ ['-']]
  | piece :: rest => piece :: closeHyphen rest

/-- Joins the pieces on either side of a range that runs backwards, without its bounds. -/
def dropBackward : List (List Char) → List (List Char)
  | [] => []
  | piece :: rest =>
      match piece.getLast?, dropBackward rest with
      | some low, (high :: more) :: pieces =>
          if high.toNat < low.toNat then (piece.dropLast ++ more) :: pieces
          else piece :: (high :: more) :: pieces
      | _, pieces => piece :: pieces

/-- The members of a set with the hyphens that still make ranges. -/
def setTokens : List (List Char) → List SetToken
  | [] => []
  | [piece] => piece.map .member
  | piece :: rest => piece.map .member ++ .hyphen :: setTokens rest

/-- Reads members and ranges. A hyphen without a member before it is a member. -/
def readRanges : List SetToken → List (Char × Char)
  | [] => []
  | .member low :: .hyphen :: .member high :: rest => (low, high) :: readRanges rest
  | .member c :: rest => (c, c) :: readRanges rest
  | .hyphen :: .hyphen :: .member high :: rest => ('-', high) :: readRanges rest
  | .hyphen :: rest => ('-', '-') :: readRanges rest

def readSet (s : List Char) : Wildcard :=
  let skip := if s.head? == some '!' then 2 else 1
  match setTokens (dropBackward (closeHyphen (splitHyphens [] skip s))) with
  | .member '!' :: rest => .oneOf true (readRanges rest)
  | tokens => .oneOf false (readRanges tokens)

/-- Reads a pattern; a run of stars counts as one. -/
def readSteps : Nat → List Char → List Wildcard
  | 0, _ => []
  | _, [] => []
  | fuel + 1, '*' :: rest => .anyText :: readSteps fuel (rest.dropWhile (· == '*'))
  | fuel + 1, '?' :: rest => .anyOne :: readSteps fuel rest
  | fuel + 1, '[' :: rest =>
      match closeSet? rest with
      | some (set, more) => readSet set :: readSteps fuel more
      | none => .literal '[' :: readSteps fuel rest
  | fuel + 1, c :: rest => .literal c :: readSteps fuel rest

def ofPattern (pattern : List Char) : List Wildcard :=
  readSteps pattern.length pattern

def holds (ranges : List (Char × Char)) (c : Char) : Bool :=
  ranges.any fun (low, high) => low.toNat ≤ c.toNat && c.toNat ≤ high.toNat

/-- Whether a step accepts a single character. -/
def accepts : Wildcard → Char → Bool
  | .literal expected, c => c == expected
  | .anyOne, _ => true
  | .anyText, _ => true
  | .oneOf complement ranges, c => holds ranges c != complement

/-- Truth values, each joined with all that come after it. -/
def joinLater : List Bool → List Bool
  | [] => []
  | b :: rest =>
      let later := joinLater rest
      (b || later.headD false) :: later

/-- For every rest of a text, from the whole text to the empty one, whether it matches the steps
of a pattern. A star takes off any number of characters and every other step takes off one. -/
def matchesOfRests (text : List Char) : List Wildcard → List Bool
  | [] => text.map (fun _ => false) ++ [true]
  | .anyText :: steps => joinLater (matchesOfRests text steps)
  | step :: steps =>
      List.zipWith (fun c after => step.accepts c && after) text
        (matchesOfRests text steps).tail ++ [false]

def matchesAll (steps : List Wildcard) (text : List Char) : Bool :=
  (matchesOfRests text steps).headD false

end Wildcard

def matchesPattern (pattern text : List Char) : Bool :=
  Wildcard.matchesAll (Wildcard.ofPattern pattern) text

def isWildcard (pattern : List Char) : Bool :=
  pattern.any fun c => c == '*' || c == '?' || c == '['

end CommandDocs.Text

import CommandDocs.Text.Blank

/-!
# Lines

Help text is split into lines at line feeds after carriage returns have been normalised away.
Listings are split at every line break that Unicode knows.
-/

namespace CommandDocs.Text

/-- Every carriage return, alone or before a line feed, becomes one line feed. -/
def unifyBreaks : List Char → List Char
  | [] => []
  | '\r' :: '\n' :: rest => '\n' :: unifyBreaks rest
  | c :: rest => (if c == '\r' then '\n' else c) :: unifyBreaks rest

/-- Every carriage return that stands before a line feed is dropped. -/
def dropReturns : List Char → List Char
  | [] => []
  | '\r' :: '\n' :: rest => '\n' :: dropReturns rest
  | c :: rest => c :: dropReturns rest

/-- The pieces of a text between the occurrences of a separator; there is always at least
one. -/
def splitAt (separator : Char) : List Char → List (List Char)
  | [] => [[]]
  | c :: rest =>
      if c == separator then [] :: splitAt separator rest
      else match splitAt separator rest with
        | [] => [[c]]
        | piece :: pieces => (c :: piece) :: pieces

def joinWith (separator : Char) : List (List Char) → List Char
  | [] => []
  | [piece] => piece
  | piece :: pieces => piece ++ separator :: joinWith separator pieces

theorem splitAt_ne_nil (separator : Char) (s : List Char) : splitAt separator s ≠ [] := by
  cases s with
  | nil => simp [splitAt]
  | cons c rest =>
      unfold splitAt
      split
      · simp
      · split <;> simp

def splitFeeds (s : List Char) : List (List Char) :=
  splitAt '\n' s

def joinFeeds (lines : List (List Char)) : List Char :=
  joinWith '\n' lines

/-- The characters at which a listing is split: line feed, vertical tab, form feed, carriage
return, the separators of files, groups and records, next line, and the Unicode line and
paragraph separators. -/
def isBreak (c : Char) : Bool :=
  (0xA ≤ c.toNat && c.toNat ≤ 0xD) || (0x1C ≤ c.toNat && c.toNat ≤ 0x1E) ||
    c.toNat == 0x85 || c.toNat == 0x2028 || c.toNat == 0x2029

/-- The lines of a listing, without their breaks; a final break opens no further line. -/
def breakLines : List Char → List (List Char)
  | [] => []
  | '\r' :: '\n' :: rest => [] :: breakLines rest
  | c :: rest =>
      if isBreak c then [] :: breakLines rest
      else match breakLines rest with
        | [] => [[c]]
        | line :: lines => (c :: line) :: lines

end CommandDocs.Text

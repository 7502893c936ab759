import CommandDocs.Text.Interval

/-!
# White space

Two notions of white space are kept apart. A blank is any Unicode white-space character, also
the four information separators; a gap is a space or a tab and separates words on one line.
-/

namespace CommandDocs.Text

def blankIntervals : List (Nat × Nat) :=
  [
    (0x9, 0xD), (0x1C, 0x20), (0x85, 0x85), (0xA0, 0xA0), (0x1680, 0x1680),
    (0x2000, 0x200A), (0x2028, 0x2029), (0x202F, 0x202F), (0x205F, 0x205F), (0x3000, 0x3000)
  ]

/-- A Unicode white-space character. -/
def isBlank (c : Char) : Bool :=
  inIntervals blankIntervals c

/-- A space or a tab. -/
def isGap (c : Char) : Bool :=
  c == ' ' || c == '\t'

theorem isBlank_of_isGap {c : Char} (h : isGap c = true) : isBlank c = true := by
  simp only [isGap, Bool.or_eq_true, beq_iff_eq] at h
  rcases h with rfl | rfl <;> decide

/-- A text without its longest final run of characters in a class. -/
def dropEndWhile (p : Char → Bool) (s : List Char) : List Char :=
  (s.reverse.dropWhile p).reverse

/-- A text without the characters of a class at either end. -/
def trimBoth (p : Char → Bool) (s : List Char) : List Char :=
  dropEndWhile p (s.dropWhile p)

def trim (s : List Char) : List Char :=
  trimBoth isBlank s

def trimGaps (s : List Char) : List Char :=
  trimBoth isGap s

def afterStart? : List Char → List Char → Option (List Char)
  | [], s => some s
  | _ :: _, [] => none
  | a :: start, c :: s => if a == c then afterStart? start s else none

theorem afterStart?_eq_some_iff {start s rest : List Char} :
    afterStart? start s = some rest ↔ s = start ++ rest := by
  induction start generalizing s with
  | nil => simp [afterStart?, eq_comm]
  | cons a start ih =>
      cases s with
      | nil => simp [afterStart?]
      | cons c s =>
          by_cases h : a = c
          · simp [afterStart?, h, ih]
          · simp [afterStart?, h, Ne.symm h]

end CommandDocs.Text

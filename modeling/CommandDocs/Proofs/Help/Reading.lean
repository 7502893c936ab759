import CommandDocs.Help.Extract

/-!
# Reading a help text line by line

The values of a help text are read off its lines.  Only the examples can refuse a text, and they
do so exactly when an anchor that is ended by a line feed has too many digits; the fault then
tells of the first such anchor.
-/

namespace CommandDocs.Help

open Layout

/-- What the lines of a help text say, given its examples. -/
def fieldsOf (lines : List Line) (examples : List Example) : Fields where
  name := String.ofList (scalar "NAME" lines)
  synopsis := String.ofList (scalar "SYNOPSIS" lines)
  usage := String.ofList (scalar "SYNTAX" lines)
  description := String.ofList (scalar "DESCRIPTION" lines)
  parameters := readParameters (parametersSection lines)
  examples := examples

theorem extract_eq_map (text : String) :
    extract text = (readExamples (linesOf text)).map (fieldsOf (linesOf text)) := by
  unfold extract
  dsimp only
  cases readExamples (linesOf text) <;> rfl

/-- What is extracted is what the lines say, with examples that are read off them. -/
theorem exists_of_extract_eq_ok {text : String} {fields : Fields}
    (read : extract text = .ok fields) :
    ∃ examples, readExamples (linesOf text) = .ok examples ∧
      fields = fieldsOf (linesOf text) examples := by
  rw [extract_eq_map] at read
  cases found : readExamples (linesOf text) with
  | error fault =>
      rw [found] at read
      cases read
  | ok examples =>
      rw [found] at read
      exact ⟨examples, rfl, (Except.ok.inj read).symm⟩

/-! ## Oversized numbers -/

/-- The number of digits of an example anchor, when there are too many of them. -/
def oversized? (line : Line) : Option Nat :=
  match exampleDigits? line with
  | some digits => if digits.length > Text.digitLimit then some digits.length else none
  | none => none

/-- The first oversized number among the anchors that are ended by a line feed, which is every
line but the last. -/
def firstOversized? (lines : List Line) : Option Nat :=
  lines.dropLast.findSome? oversized?

theorem oversized?_eq_some_iff {line : Line} {count : Nat} :
    oversized? line = some count ↔
      ∃ digits, exampleDigits? line = some digits ∧ Text.digitLimit < digits.length ∧
        digits.length = count := by
  unfold oversized?
  cases exampleDigits? line with
  | none => simp
  | some digits =>
      by_cases large : digits.length > Text.digitLimit
      · simp [large]
      · simp [large]

theorem readExamples_cons_cons (line next : Line) (rest : List Line) :
    readExamples (line :: next :: rest) =
      match oversized? line, exampleDigits? line with
      | some count, _ => .error (.tooLong count)
      | none, none => readExamples (next :: rest)
      | none, some digits => (readExamples (next :: rest)).map
          (⟨(Text.decimalValue digits : Nat),
            String.ofList (Text.trim (Text.joinFeeds (exampleLines (next :: rest))))⟩ :: ·) := by
  cases anchor : exampleDigits? line with
  | none => simp [readExamples, oversized?, anchor]
  | some digits =>
      by_cases large : digits.length > Text.digitLimit
      · simp [readExamples, oversized?, anchor, Text.readDigits, large, bind, Except.bind]
      · simp only [readExamples, oversized?, anchor, Text.readDigits, if_neg large, bind,
          Except.bind]
        cases readExamples (next :: rest) <;> rfl

/-- Reading the examples fails exactly at an oversized number, and with the first one. -/
theorem readExamples_eq_error_iff {lines : List Line} {fault : Text.NumberFault} :
    readExamples lines = .error fault ↔
      ∃ count, firstOversized? lines = some count ∧ fault = .tooLong count := by
  induction lines with
  | nil => simp [readExamples, firstOversized?]
  | cons line rest ih =>
      cases rest with
      | nil => simp [readExamples, firstOversized?]
      | cons next others =>
          have first : firstOversized? (line :: next :: others) =
              (oversized? line).or (firstOversized? (next :: others)) := by
            simp only [firstOversized?, List.dropLast_cons_cons, List.findSome?_cons]
            cases oversized? line <;> rfl
          rw [readExamples_cons_cons, first]
          cases large : oversized? line with
          | some count => simp [eq_comm]
          | none =>
              rw [Option.none_or, ← ih]
              cases exampleDigits? line with
              | none => rfl
              | some digits =>
                  cases readExamples (next :: others) <;> simp [Except.map]

/-- **A help text is refused exactly when one of its examples has an oversized number.** -/
theorem extract_eq_error_iff {text : String} {fault : Text.NumberFault} :
    extract text = .error fault ↔
      ∃ count, firstOversized? (linesOf text) = some count ∧ fault = .tooLong count := by
  rw [extract_eq_map, ← readExamples_eq_error_iff]
  cases readExamples (linesOf text) <;> simp [Except.map]

end CommandDocs.Help

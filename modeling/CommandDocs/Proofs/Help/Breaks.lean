import CommandDocs.Help.Extract
import CommandDocs.Proofs.Text.Breaks
import CommandDocs.Proofs.Text.Lines

/-!
# Line endings do not matter

Help text is read line by line after its breaks have been unified, so what it says does not depend
on the breaks that its lines are ended by.
-/

namespace CommandDocs.Help

open Text (Break Separate rebreak)

/-- A text whose line feeds are replaced by the breaks that are chosen for their numbers. -/
def rebroken (choose : Nat → Break) (text : String) : String :=
  String.ofList (rebreak choose 0 text.toList)

/-- The lines of a text are the same, whatever they are ended by. -/
theorem linesOf_rebroken {choose : Nat → Break} (separate : Separate choose) {text : String}
    (unbroken : '\r' ∉ text.toList) : linesOf (rebroken choose text) = linesOf text := by
  have other := Text.unifyBreaks_rebreak separate 0 unbroken
  have own := Text.unifyBreaks_of_not_mem unbroken
  rw [linesOf, rebroken, String.toList_ofList, other, linesOf, own]

/-- **Line endings do not matter.**  In a text without carriage returns let every line feed be
replaced by a line feed, by both, or by a carriage return, with no line feed chosen right after a
carriage return.  Then everything that the text says stays the same, and so does its refusal.  In
particular some line feeds may get a carriage return before them, or all may become carriage
returns. -/
theorem extract_rebroken {choose : Nat → Break} (separate : Separate choose) {text : String}
    (unbroken : '\r' ∉ text.toList) :
    extract (rebroken choose text) = extract text ∧
      extractSynopsis (rebroken choose text) = extractSynopsis text := by
  have lines := linesOf_rebroken separate unbroken
  constructor
  · unfold extract
    rw [lines]
  · rw [extractSynopsis, lines, extractSynopsis]

/-- A text with some of its lines ended by both, and the same text with carriage returns alone. -/
theorem extract_rebroken_sample :
    extract "SYNOPSIS\r\n\n    Gets.\n- EXAMPLE 1\r\n run" =
        extract "SYNOPSIS\n\n    Gets.\n- EXAMPLE 1\n run" ∧
      extractSynopsis "SYNOPSIS\r\r    Gets.\r- EXAMPLE 1\r run" =
        extractSynopsis "SYNOPSIS\n\n    Gets.\n- EXAMPLE 1\n run" := by
  have unbroken : '\r' ∉ "SYNOPSIS\n\n    Gets.\n- EXAMPLE 1\n run".toList := by decide
  have paired : rebroken (fun k => if k % 3 = 0 then .pair else .feed)
      "SYNOPSIS\n\n    Gets.\n- EXAMPLE 1\n run" =
        "SYNOPSIS\r\n\n    Gets.\n- EXAMPLE 1\r\n run" := by
    decide
  have returned : rebroken (fun _ => .carriage) "SYNOPSIS\n\n    Gets.\n- EXAMPLE 1\n run" =
      "SYNOPSIS\r\r    Gets.\r- EXAMPLE 1\r run" := by
    decide
  have mixed : Separate fun k => if k % 3 = 0 then .pair else .feed :=
    Text.separate_of_ne_carriage fun k => by split <;> decide
  have single : Separate fun _ => .carriage := Text.separate_of_eq_carriage fun _ => rfl
  have first := extract_rebroken mixed unbroken
  have second := extract_rebroken single unbroken
  rw [paired] at first
  rw [returned] at second
  exact ⟨first.1, second.2⟩

end CommandDocs.Help

import CommandDocs.Text.Pattern
import Mathlib.Data.List.Basic

/-!
# Texts that fit a pattern

A text fits a pattern when it can be cut into one piece for each step: any text for a star, and one
accepted character for every other step.  The table of all rests of a text, from which a match is
read off, finds such a cut whenever there is one.
-/

namespace CommandDocs.Text

namespace Wildcard

/-- A text that can be cut into pieces for the steps of a pattern. -/
inductive Fits : List Wildcard → List Char → Prop where
  | nil : Fits [] []
  | star {steps : List Wildcard} {text : List Char} (piece : List Char) (later : Fits steps text) :
      Fits (.anyText :: steps) (piece ++ text)
  | one {step : Wildcard} {steps : List Wildcard} {c : Char} {text : List Char}
      (single : step ≠ .anyText) (accepted : step.accepts c = true) (later : Fits steps text) :
      Fits (step :: steps) (c :: text)

/-! ## The table of rests -/

theorem length_joinLater (row : List Bool) : (joinLater row).length = row.length := by
  induction row with
  | nil => rfl
  | cons b rest ih => simp [joinLater, ih]

theorem matchesOfRests_one {step : Wildcard} (single : step ≠ .anyText) (text : List Char)
    (steps : List Wildcard) :
    matchesOfRests text (step :: steps) =
      List.zipWith (fun c after => step.accepts c && after) text
        (matchesOfRests text steps).tail ++ [false] := by
  cases step with
  | anyText => exact absurd rfl single
  | _ => rfl

theorem length_matchesOfRests (text : List Char) (steps : List Wildcard) :
    (matchesOfRests text steps).length = text.length + 1 := by
  induction steps with
  | nil => simp [matchesOfRests]
  | cons step steps ih =>
      by_cases star : step = .anyText
      · rw [star, matchesOfRests, length_joinLater, ih]
      · simp [matchesOfRests_one star, ih]

/-- The table starts with the whole text. -/
theorem matchesOfRests_eq_cons (text : List Char) (steps : List Wildcard) :
    matchesOfRests text steps = matchesAll steps text :: (matchesOfRests text steps).tail := by
  have long := length_matchesOfRests text steps
  unfold matchesAll
  cases row : matchesOfRests text steps with
  | nil => simp [row] at long
  | cons b rest => rfl

/-- The table of a longer text goes on with the table of the shorter one. -/
theorem tail_matchesOfRests (c : Char) (text : List Char) (steps : List Wildcard) :
    (matchesOfRests (c :: text) steps).tail = matchesOfRests text steps := by
  induction steps with
  | nil => rfl
  | cons step steps ih =>
      by_cases star : step = .anyText
      · rw [star, matchesOfRests, matchesOfRests_eq_cons, ih]
        rfl
      · rw [matchesOfRests_one star, ih, matchesOfRests_eq_cons text steps, List.zipWith_cons_cons,
          List.cons_append, List.tail_cons, matchesOfRests_one star]

/-! ## One step -/

theorem matchesAll_star_nil (steps : List Wildcard) :
    matchesAll (.anyText :: steps) [] = matchesAll steps [] := by
  have short : (matchesOfRests [] steps).tail = [] := by
    have long := length_matchesOfRests [] steps
    exact List.eq_nil_of_length_eq_zero (by simp [long])
  rw [matchesAll, matchesOfRests, matchesOfRests_eq_cons, short]
  simp [joinLater]

theorem matchesAll_star_cons (steps : List Wildcard) (c : Char) (text : List Char) :
    matchesAll (.anyText :: steps) (c :: text) =
      (matchesAll steps (c :: text) || matchesAll (.anyText :: steps) text) := by
  rw [matchesAll, matchesOfRests, matchesOfRests_eq_cons, tail_matchesOfRests]
  rfl

theorem matchesAll_one_nil {step : Wildcard} (single : step ≠ .anyText) (steps : List Wildcard) :
    matchesAll (step :: steps) [] = false := by
  rw [matchesAll, matchesOfRests_one single]
  rfl

theorem matchesAll_one_cons {step : Wildcard} (single : step ≠ .anyText) (steps : List Wildcard)
    (c : Char) (text : List Char) :
    matchesAll (step :: steps) (c :: text) = (step.accepts c && matchesAll steps text) := by
  rw [matchesAll, matchesOfRests_one single, tail_matchesOfRests, matchesOfRests_eq_cons]
  rfl

/-! ## Matching -/

theorem matchesAll_of_fits {steps : List Wildcard} {text : List Char} (fits : Fits steps text) :
    matchesAll steps text = true := by
  induction fits with
  | nil => rfl
  | star piece later ih =>
      induction piece with
      | nil =>
          rename_i steps text
          cases text with
          | nil => rwa [List.nil_append, matchesAll_star_nil]
          | cons c text => rw [List.nil_append, matchesAll_star_cons, ih, Bool.true_or]
      | cons c piece again => rw [List.cons_append, matchesAll_star_cons, again, Bool.or_true]
  | one single accepted later ih => rw [matchesAll_one_cons single, accepted, ih, Bool.and_self]

theorem fits_of_matchesAll {steps : List Wildcard} {text : List Char}
    (matched : matchesAll steps text = true) : Fits steps text := by
  induction steps generalizing text with
  | nil =>
      cases text with
      | nil => exact .nil
      | cons c text => cases matched
  | cons step steps ih =>
      by_cases star : step = .anyText
      · subst star
        induction text with
        | nil =>
            rw [matchesAll_star_nil] at matched
            exact .star [] (ih matched)
        | cons c text again =>
            rw [matchesAll_star_cons, Bool.or_eq_true] at matched
            rcases matched with here | later
            · exact .star [] (ih here)
            · cases again later with
              | star piece fits => exact .star (c :: piece) fits
              | one single => exact absurd rfl single
      · cases text with
        | nil =>
            rw [matchesAll_one_nil star] at matched
            cases matched
        | cons c text =>
            rw [matchesAll_one_cons star, Bool.and_eq_true] at matched
            exact .one star matched.1 (ih matched.2)

theorem matchesAll_iff {steps : List Wildcard} {text : List Char} :
    matchesAll steps text = true ↔ Fits steps text :=
  ⟨fits_of_matchesAll, matchesAll_of_fits⟩

end Wildcard

def FitsPattern (pattern text : String) : Prop :=
  Wildcard.Fits (Wildcard.ofPattern pattern.toList) text.toList

theorem matchesPattern_iff {pattern text : String} :
    matchesPattern pattern.toList text.toList = true ↔ FitsPattern pattern text :=
  Wildcard.matchesAll_iff

instance (pattern text : String) : Decidable (FitsPattern pattern text) :=
  decidable_of_iff _ matchesPattern_iff

end CommandDocs.Text

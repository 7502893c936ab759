import CommandDocs.Text.Blank
import CommandDocs.Text.Digit
import CommandDocs.Text.Word

/-!
# Classes of characters

Letters are word characters, no blank is one, and no gap is a digit.
-/

namespace CommandDocs.Text

def blankCodes : List Nat :=
  blankIntervals.flatMap fun (first, last) => List.range' first (last + 1 - first)

theorem mem_blankCodes {c : Char} (blank : isBlank c = true) : c.toNat ∈ blankCodes := by
  obtain ⟨interval, member, lower, upper⟩ := inIntervals_iff.mp blank
  refine List.mem_flatMap.mpr ⟨interval, member, ?_⟩
  rw [List.mem_range'_1]
  omega

theorem isWord_of_isBlank {c : Char} (blank : isBlank c = true) : isWord c = false := by
  have all : ∀ code ∈ blankCodes, isWord (Char.ofNat code) = false := by decide +kernel
  have here := all c.toNat (mem_blankCodes blank)
  rwa [Char.ofNat_toNat] at here

theorem isWord_of_isAlpha {c : Char} (alpha : c.isAlpha = true) : isWord c = true := by
  have cased : c.isUpper = true ∨ c.isLower = true := Bool.or_eq_true_iff.mp alpha
  have small : c.toNat < 128 := by
    rcases cased with upper | lower
    · have last : c.val ≤ 90 := (of_decide_eq_true upper).2
      exact Nat.lt_of_le_of_lt (UInt32.le_iff_toNat_le.mp last) (by decide)
    · have last : c.val ≤ 122 := of_decide_eq_true (Bool.and_eq_true_iff.mp lower).2
      exact Nat.lt_of_le_of_lt (UInt32.le_iff_toNat_le.mp last) (by decide)
  simp [isWord, isAlphanumeric, small, Char.isAlphanum, alpha]

theorem isGap_of_isDecimal {c : Char} (decimal : isDecimal c = true) : isGap c = false := by
  cases gap : isGap c with
  | false => rfl
  | true =>
      simp only [isGap, Bool.or_eq_true, beq_iff_eq] at gap
      rcases gap with rfl | rfl <;> exact absurd decimal (by decide)

end CommandDocs.Text

import Stencil.Unicode.Blank
import Stencil.Unicode.Word

/-!
# Blanks, digits and words

Which classes of characters have nothing in common.
-/

namespace Stencil.Unicode

variable {c : Char}

/-- The code points of the blank characters. -/
def blankPoints : List Nat :=
  List.range' 0x9 5 ++ [0x20, 0x85, 0xa0, 0x1680] ++ List.range' 0x2000 11 ++
    [0x2028, 0x2029, 0x202f, 0x205f, 0x3000]

theorem mem_blankPoints (blank : isBlank c = true) : c.toNat ∈ blankPoints := by
  simp only [isBlank, within, withinFrom, blankBounds] at blank
  simp only [blankPoints, List.mem_append, List.mem_range'_1, List.mem_cons, List.not_mem_nil]
  grind

/-- What fails at each blank code point holds of no blank character. -/
theorem eq_false_of_isBlank {p : Char → Bool}
    (none : ∀ point ∈ blankPoints, p (Char.ofNat point) = false) (blank : isBlank c = true) :
    p c = false := by
  rw [← Char.ofNat_toNat c]
  exact none _ (mem_blankPoints blank)

theorem ne_of_isBlank {d : Char} (blank : isBlank c = true) (unblank : isBlank d = false) : c ≠ d := by
  rintro rfl
  rw [blank] at unblank
  cases unblank

theorem isWordChar_of_isBlank : isBlank c = true → isWordChar c = false :=
  eq_false_of_isBlank (by decide +kernel)

theorem isDigit_of_isBlank : isBlank c = true → c.isDigit = false :=
  eq_false_of_isBlank (by decide +kernel)

/-- No letter comes before the capital ones. -/
theorem isAlphabetic_of_lt (below : c.toNat < 0x41) : isAlphabetic c = false :=
  within_eq_false_of_lt below

theorem isAlphabetic_of_isLower (small : c.isLower = true) : isAlphabetic c = true := by
  obtain ⟨least, greatest⟩ := Bool.and_eq_true_iff.mp small
  have above : (97 : Nat) ≤ c.toNat := UInt32.le_iff_toNat_le.mp (of_decide_eq_true least)
  have below : c.toNat ≤ (122 : Nat) := UInt32.le_iff_toNat_le.mp (of_decide_eq_true greatest)
  have within (rest : List Nat) :
      withinFrom false (0x41 :: 0x5b :: 0x61 :: 0x7b :: rest) c.toNat = true := by
    rw [withinFrom, if_neg (by omega), withinFrom, if_neg (by omega), withinFrom,
      if_neg (by omega), withinFrom, if_pos (by omega)]
    rfl
  exact within _

theorem isDigit_of_isAlphabetic (letter : isAlphabetic c = true) : c.isDigit = false := by
  cases digit : c.isDigit with
  | false => rfl
  | true =>
      have below : c.toNat ≤ 57 := (Char.isDigit_iff_toNat.mp digit).2
      rw [isAlphabetic_of_lt (by omega)] at letter
      cases letter

theorem isWordChar_of_isAlphabetic (letter : isAlphabetic c = true) : isWordChar c = true := by
  rw [isWordChar, isAlphanumeric, letter]
  rfl

end Stencil.Unicode

import Stencil.Library
import Stencil.Proofs.Value.Exact

/-!
# Negation and magnitude

Both are what subtraction from zero makes of an integer, where they change it at all. The one
integer on which the three part ways is the least signed one: subtraction and the magnitude go on
to its unsigned negative, and negation leaves the integers.
-/

namespace Stencil

theorem Int64.abs_eq_self {n : Int64} (natural : 0 ≤ n.toInt) : n.abs = n := by
  have positive : n.toBitVec.msb = false := by
    rw [BitVec.msb_eq_toInt, decide_eq_false_iff_not]
    exact Int.not_lt.mpr natural
  rw [Int64.abs, BitVec.abs_eq, positive]
  rfl

theorem Int64.abs_eq_neg {n : Int64} (negative : n.toInt < 0) : n.abs = -n := by
  have signed : n.toBitVec.msb = true := by
    rw [BitVec.msb_eq_toInt, decide_eq_true_eq]
    exact negative
  rw [Int64.abs, BitVec.abs_eq, signed]
  rfl

namespace Value

variable {value : Value} {x : Int}

/-- What counts as an integer is seen as a number of one of the integer kinds. -/
theorem Counts.toNumber (counts : value.Counts x) :
    (∃ n, value.toNumber = .int n ∧ n.toInt = x) ∨ ∃ n, value.toNumber = .uint n ∧ n.toNat = x := by
  have view := counts_iff.mp counts
  cases seen : value.toNumber with
  | int n =>
      rw [seen] at view
      exact .inl ⟨n, rfl, Option.some.inj view⟩
  | uint n =>
      rw [seen] at view
      exact .inr ⟨n, rfl, Option.some.inj view⟩
  | float f =>
      rw [seen] at view
      cases view

/-- An integer that is not preferred unsigned is signed where there is room. -/
theorem ofInteger_small {n : Int} (least : leastInt ≤ n) (greatest : n ≤ greatestInt) :
    ofInteger n false = int (Int64.ofInt n) := by
  unfold ofInteger
  rw [if_neg fun asked => Bool.false_ne_true asked.1, if_pos ⟨least, greatest⟩]

/-- The negative of a signed integer is signed again, unless that is the least one. -/
theorem ofInteger_neg {n : Int64} (other : n.toInt ≠ leastInt) :
    ofInteger (-n.toInt) false = int (-n) := by
  have least := n.le_toInt
  have greatest := n.toInt_lt
  unfold leastInt at other
  rw [ofInteger_small, Int64.ofInt_neg, Int64.ofInt_toInt]
  · unfold leastInt
    omega
  · unfold greatestInt
    omega

theorem zero_sub_eq (counts : value.Counts x) : (int 0).sub value = ofInteger (-x) false := by
  have bounds := Number.toInt?_bounds (counts_iff.mp counts)
  have close : isExact (0 - x) = true := by
    unfold leastInt greatestUInt at bounds
    unfold isExact
    simp only [Bool.and_eq_true, decide_eq_true_eq]
    omega
  unfold sub combine
  dsimp only
  rw [counts_iff.mp counts]
  show (if isExact (0 - x) = true then ofInteger (0 - x) false else _) = _
  rw [if_pos close, Int.zero_sub]

theorem neg_of_ne (counts : value.Counts x) (other : x ≠ leastInt) :
    value.neg = ofInteger (-x) false := by
  unfold neg
  obtain ⟨n, seen, rfl⟩ | ⟨n, seen, rfl⟩ := counts.toNumber
  · rw [seen]
    exact (if_neg other).trans (ofInteger_neg other).symm
  · rw [seen]

/-- Only a signed number is the least integer, and there is no signed negative of that. -/
theorem neg_of_least (counts : value.Counts leastInt) :
    value.neg = float (-(Decimal.ofInt leastInt)) := by
  unfold neg
  obtain ⟨n, seen, least⟩ | ⟨n, seen, least⟩ := counts.toNumber
  · rw [seen]
    dsimp only
    rw [if_pos least, least]
  · unfold leastInt at least
    omega

theorem abs_of_natural (counts : value.Counts x) (natural : 0 ≤ x) :
    value.abs = value.toNumber.toValue := by
  unfold abs
  obtain ⟨n, seen, rfl⟩ | ⟨n, seen, rfl⟩ := counts.toNumber
  · have other : n.toInt ≠ leastInt := by
      unfold leastInt
      omega
    rw [seen]
    dsimp only
    rw [if_neg other, Int64.abs_eq_self natural]
    rfl
  · rw [seen]
    rfl

theorem abs_of_negative (counts : value.Counts x) (negative : x < 0) :
    value.abs = ofInteger (-x) false := by
  unfold abs
  obtain ⟨n, seen, rfl⟩ | ⟨n, seen, rfl⟩ := counts.toNumber
  · rw [seen]
    dsimp only
    by_cases least : n.toInt = leastInt
    · rw [if_pos least, least]
      rfl
    · rw [if_neg least, Int64.abs_eq_neg negative, ofInteger_neg least]
  · omega

theorem holds_toValue {number : Number} (integer : number.toInt? = some x) :
    number.toValue.Holds x := by
  cases number with
  | int n => exact Option.some.inj integer
  | uint n => exact Option.some.inj integer
  | float f => cases integer

/-- No integer is so far from zero that its magnitude has no room. -/
theorem holds_abs (counts : value.Counts x) : value.abs.Holds x.natAbs := by
  have bounds := Number.toInt?_bounds (counts_iff.mp counts)
  rcases Int.lt_or_le x 0 with negative | natural
  · have fits := fits_ofInteger (-x) false
    unfold leastInt greatestUInt at bounds
    rw [Fits, if_pos (by unfold leastInt greatestUInt; omega)] at fits
    rw [abs_of_negative counts negative, show (x.natAbs : Int) = -x by omega]
    exact fits
  · rw [abs_of_natural counts natural, Int.natAbs_of_nonneg natural]
    exact holds_toValue (counts_iff.mp counts)

/-- The magnitude of an integer is the integer itself or what subtraction from zero makes of it, and
always exact. The negated integer is what subtraction from zero makes of it, exact where there is
room, unless it is the least one: then subtraction is exact and negation yields a float. -/
theorem unary_agrees (counts : value.Counts x) :
    Library.builtins.call "abs" [value] = .ok value.abs ∧
      value.abs = (if 0 ≤ x then value.toNumber.toValue else (int 0).sub value) ∧
      value.abs.Holds x.natAbs ∧ ((int 0).sub value).Fits (-x) ∧
      if x = leastInt then value.neg.IsFloat else value.neg = (int 0).sub value := by
  refine ⟨rfl, ?_, holds_abs counts, ?_, ?_⟩
  · split
    · next natural => exact abs_of_natural counts natural
    · next negative =>
      rw [zero_sub_eq counts]
      exact abs_of_negative counts (Int.not_le.mp negative)
  · rw [zero_sub_eq counts]
    exact fits_ofInteger _ _
  · split
    · next least =>
      subst least
      rw [neg_of_least counts]
      trivial
    · next other => rw [neg_of_ne counts other, zero_sub_eq counts]

/-- The negative of an unsigned integer can be the least signed one, and the magnitude of that is
unsigned again. -/
theorem unary_agrees_extremes :
    (raw "9223372036854775808").neg.Holds leastInt ∧
      (text "-9223372036854775808").abs.Holds 0x8000000000000000 := by
  have large : (raw "9223372036854775808").Counts 0x8000000000000000 :=
    counts_iff.mpr (by decide +kernel)
  have least : (text "-9223372036854775808").Counts leastInt := counts_iff.mpr (by decide +kernel)
  obtain ⟨-, -, -, exact, agrees⟩ := unary_agrees large
  rw [if_neg (by decide)] at agrees
  rw [Fits, if_pos (by decide), ← agrees] at exact
  exact ⟨exact, (unary_agrees least).2.2.1⟩

/-- At the least signed integer negation yields a float, and subtraction from zero its exact
negative. -/
theorem neg_least_inexact :
    (int (-0x8000000000000000)).Counts leastInt ∧ (int (-0x8000000000000000)).neg.IsFloat ∧
      ((int 0).sub (int (-0x8000000000000000))).Holds 0x8000000000000000 := by
  have least : (int (-0x8000000000000000)).Counts leastInt := .int (-0x8000000000000000)
  refine ⟨least, ?_, ?_⟩
  · rw [neg_of_least least]
    trivial
  · rw [zero_sub_eq least]
    rfl

end Value

end Stencil

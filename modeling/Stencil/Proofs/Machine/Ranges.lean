import Mathlib.Algebra.Group.Nat.Defs
import Stencil.Proofs.Machine.Broken
import Stencil.Proofs.Value.Exact

/-!
# Ranges

A range of integers has the integers from the first to the last, where both are signed. An unsigned
bound that no signed integer reaches is lowered to the greatest signed one, so that a range up to
there, or back from there, has other elements than the integers between its bounds.
-/

namespace Stencil

open Value (leastInt greatestInt)

/-! ## Bounds -/

namespace Value

variable {value : Value} {x y : Int}

theorem Holds.unique (holds : value.Holds x) (holds' : value.Holds y) : x = y := by
  cases value with
  | int n => exact Eq.trans (Eq.symm holds) holds'
  | uint n => exact Eq.trans (Eq.symm holds) holds'
  | _ => cases holds

/-- As a bound, an integer of either kind is lowered to the greatest signed one. -/
theorem Holds.toInteger_eq (holds : value.Holds x) : value.toInteger = min x greatestInt := by
  cases value with
  | int n =>
      cases holds
      have below : n.toInt ≤ greatestInt := Int.le_sub_one_of_lt n.toInt_lt
      exact (Int.min_eq_left below).symm
  | uint n =>
      cases holds
      rfl
  | _ => cases holds

theorem Holds.least_le (holds : value.Holds x) : leastInt ≤ x := by
  unfold leastInt
  cases value with
  | int n =>
      cases holds
      exact n.le_toInt
  | uint n =>
      cases holds
      omega
  | _ => cases holds

end Value

namespace Machine

/-- The integers from one to another, in order. -/
def integers (first last : Int) : List Int :=
  (List.range (last - first + 1).toNat).map fun (step : Nat) => first + step

variable {first last x y z : Int}

theorem mem_integers : z ∈ integers first last ↔ first ≤ z ∧ z ≤ last := by
  unfold integers
  rw [List.mem_map]
  constructor
  · rintro ⟨step, among, rfl⟩
    have := List.mem_range.mp among
    omega
  · intro between
    exact ⟨(z - first).toNat, List.mem_range.mpr (by omega), by omega⟩

theorem integers_empty (before : last < first) : integers first last = [] := by
  rw [integers, Int.toNat_of_nonpos (by omega)]
  rfl

/-- The elements of a range between signed bounds are the integers between them. -/
theorem holds_integersFrom (least : leastInt ≤ first) (greatest : last ≤ greatestInt) :
    List.Forall₂ Value.Holds (integersFrom first last) (integers first last) := by
  unfold leastInt at least
  unfold greatestInt at greatest
  unfold integersFrom integers
  rw [List.forall₂_map_left_iff, List.forall₂_map_right_iff, List.forall₂_same]
  intro step among
  have inside := List.mem_range.mp among
  exact Int64.toInt_ofInt_of_le (by omega) (by omega)

/-- The last of some integers is signed, and the first one too, unless it is behind the last anyway
when it is lowered. -/
def Faithful (first last : Int) : Prop :=
  last ≤ greatestInt ∧ (first ≤ greatestInt ∨ last < greatestInt)

/-- Lowering the bounds of a range leaves the integers between them as they are only there. -/
theorem integers_lowered :
    integers (min x greatestInt) (min y greatestInt) = integers x y ↔ Faithful x y := by
  constructor
  · intro same
    have alike (z : Int) := mem_integers.symm.trans (same ▸ mem_integers (z := z))
    -- the last integer asked for is missing, or there is one where none was asked for
    have last := alike y
    have greatest := alike greatestInt
    unfold Faithful
    omega
  · rintro ⟨small, small' | smaller⟩
    · rw [Int.min_eq_left small, Int.min_eq_left small']
    · obtain large | small' := Int.lt_or_le greatestInt x
      · rw [integers_empty (by omega), integers_empty (by omega)]
      · rw [Int.min_eq_left small, Int.min_eq_left small']

/-! ## The instruction -/

variable {σ : Type} {environment : Environment σ} {state : State σ}

theorem step_of_range (found : state.current.ops[state.current.ip]? = some .range) :
    step environment state =
      match range environment.limits state.second.toInteger state.accumulator.toInteger with
      | .ok value => .running (state.yield value)
      | .error fault => fail state fault := by
  rw [step_of_attempt found rfl rfl]
  unfold combineOrFail
  dsimp only
  cases range environment.limits state.second.toInteger state.accumulator.toInteger <;> rfl

/-- The outcome of an instruction that yields a list of these integers. -/
def Lists (state : State σ) (asked : List Int) (outcome : Outcome σ) : Prop :=
  ∃ items, outcome = .running (state.yield (.list items)) ∧ List.Forall₂ Value.Holds items asked

theorem Lists.unique {asked asked' : List Int} {outcome : Outcome σ}
    (lists : Lists state asked outcome) (lists' : Lists state asked' outcome) : asked = asked' := by
  obtain ⟨items, rfl, holds⟩ := lists
  obtain ⟨_, ⟨⟩, holds'⟩ := lists'
  have functional : Relator.RightUnique Value.Holds := fun _ _ _ => Value.Holds.unique
  exact List.right_unique_forall₂' functional holds holds'

/-- A range is computed between the lowered bounds, where it may have so many elements. -/
theorem step_range (environment : Environment σ)
    (found : state.current.ops[state.current.ip]? = some .range)
    (low : state.second.Holds x) (high : state.accumulator.Holds y) :
    if environment.limits.maxRange < min y greatestInt - min x greatestInt + 1 then
      ∃ fault, step environment state = fail state fault
    else
      Lists state (integers (min x greatestInt) (min y greatestInt)) (step environment state) := by
  rw [step_of_range found, low.toInteger_eq, high.toInteger_eq]
  unfold range
  dsimp only
  split
  · next long =>
    rw [if_pos (by omega)]
    exact ⟨_, rfl⟩
  · next short =>
    rw [if_neg (by omega)]
    have least := low.least_le
    refine ⟨_, rfl, holds_integersFrom ?_ (Int.min_le_right _ _)⟩
    unfold leastInt greatestInt at *
    omega

/-- Where lowering the bounds makes no difference, a range with more elements than the limit is an
error, and any other is the list of the integers from the first to the last. Elsewhere it is either
an error or a list of other integers than these. The size of a range is computed without leaving
the integers of 128 bits, which reach far beyond two to the sixty-fourth. -/
theorem range_counts (environment : Environment σ)
    (found : state.current.ops[state.current.ip]? = some .range)
    (low : state.second.Holds x) (high : state.accumulator.Holds y) :
    (Faithful x y →
      if environment.limits.maxRange < y - x + 1 then
        ∃ fault, step environment state = fail state fault
      else Lists state (integers x y) (step environment state)) ∧
    (¬ Faithful x y →
      (∃ fault, step environment state = fail state fault) ∨
        (∃ others, Lists state others (step environment state)) ∧
          ¬ Lists state (integers x y) (step environment state)) ∧
    (min y greatestInt - min x greatestInt + 1).natAbs ≤ 2 ^ 64 := by
  have ran := step_range environment found low high
  refine ⟨fun faithful => ?_, fun unfaithful => ?_, ?_⟩
  · have size : environment.limits.maxRange < min y greatestInt - min x greatestInt + 1 ↔
        environment.limits.maxRange < y - x + 1 := by
      unfold Faithful at faithful
      omega
    rwa [integers_lowered.mpr faithful, if_congr size rfl rfl] at ran
  · split at ran
    · exact .inl ran
    · exact .inr ⟨⟨_, ran⟩, fun asked => unfaithful (integers_lowered.mp (ran.unique asked))⟩
  · have least := low.least_le
    have least' := high.least_le
    unfold leastInt greatestInt at *
    omega

/-- A state that is about to compute a range. -/
def bounded (low high : Value) : State Unit :=
  { start ⟨"t", ⟨0⟩, [.range, .halt], []⟩ () with second := low, accumulator := high }

def rangingTo (maxRange : Nat) : Environment Unit :=
  ⟨.builtins, ⟨100, maxRange⟩, none, []⟩

/-- Up to the greatest signed integer, from an unsigned one. -/
theorem range_counts_up :
    let state := bounded (.uint 0x7ffffffffffffffe) (.int 0x7fffffffffffffff)
    Lists state [0x7ffffffffffffffe, 0x7fffffffffffffff] (step (rangingTo 2) state) ∧
      ∃ fault, step (rangingTo 1) state = fail state fault := by
  intro state
  have low : state.second.Holds 0x7ffffffffffffffe := rfl
  have high : state.accumulator.Holds 0x7fffffffffffffff := rfl
  have faithful : Faithful 0x7ffffffffffffffe 0x7fffffffffffffff :=
    ⟨by decide, .inl (by decide)⟩
  have short := (range_counts (rangingTo 2) rfl low high).1 faithful
  have long := (range_counts (rangingTo 1) rfl low high).1 faithful
  rw [if_neg (by decide)] at short
  rw [if_pos (by decide)] at long
  exact ⟨short, long⟩

/-- A range of three unsigned integers yields a signed one below them, also where only two elements
are allowed. -/
theorem range_of_unsigned_lowered :
    let state := bounded (.uint 0x8000000000000000) (.uint 0x8000000000000002)
    (rangingTo 2).limits.maxRange < 0x8000000000000002 - 0x8000000000000000 + 1 ∧
      ∀ limit ∈ [2, 3], Lists state [0x7fffffffffffffff] (step (rangingTo limit) state) ∧
        ¬ Lists state (integers 0x8000000000000000 0x8000000000000002)
          (step (rangingTo limit) state) := by
  intro state
  refine ⟨by decide, fun limit among => ?_⟩
  have low : state.second.Holds 0x8000000000000000 := rfl
  have high : state.accumulator.Holds 0x8000000000000002 := rfl
  have room : ¬ ((rangingTo limit).limits.maxRange : Int) <
      min 0x8000000000000002 greatestInt - min 0x8000000000000000 greatestInt + 1 := by
    obtain rfl | rfl : limit = 2 ∨ limit = 3 := by simpa using among
    · decide
    · decide
  have ran := step_range (rangingTo limit) rfl low high
  rw [if_neg room] at ran
  refine ⟨ran, fun asked => ?_⟩
  have faithful := integers_lowered.mp (ran.unique asked)
  exact absurd faithful.1 (by decide)

end Machine

end Stencil

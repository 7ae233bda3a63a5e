/-!
# Sets of characters as boundaries

A set of code points is kept as the increasing list of the points where membership changes: the
first number is the first member, the second the first point after it that is no member, and so on.
-/

namespace Stencil.Unicode

/-- Membership in the set that starts, when `inside` is false, outside. -/
def withinFrom (inside : Bool) : List Nat → Nat → Bool
  | [], _ => inside
  | bound :: rest, point => if point < bound then inside else withinFrom (!inside) rest point

/-- Whether `point` lies in the set with these boundaries. -/
def within (bounds : List Nat) (point : Nat) : Bool :=
  withinFrom false bounds point

theorem within_eq_false_of_lt {bound point : Nat} {rest : List Nat} (below : point < bound) :
    within (bound :: rest) point = false := by
  simp [within, withinFrom, below]

end Stencil.Unicode

import Stencil.Value.Number

/-!
# Comparing values

Numbers are compared by value across kinds, texts by their characters whether raw or not,
containers element by element and objects by identity.
-/

namespace Stencil

/-- How two numbers compare; nothing compares with a float that is no number. -/
def Number.compare (left right : Number) : Option Ordering :=
  match left.toInt?, right.toInt? with
  | some x, some y => some (Ord.compare x y)
  | _, _ =>
      let x := left.toFloat
      let y := right.toFloat
      if x < y then some .lt
      else if y < x then some .gt
      else if x == y then some .eq
      else none

namespace Value

/-- Texts compare by code point; everything else compares as numbers. -/
def compare (left right : Value) : Option Ordering :=
  match left.text?, right.text? with
  | some a, some b => some (Ord.compare a b)
  | _, _ => left.toNumber.compare right.toNumber

def isNumber : Value → Bool
  | int _ | uint _ | float _ => true
  | _ => false

/-- Equality where at least one side is no container, object or nil, or the kinds differ. -/
def scalarEq (left right : Value) : Bool :=
  match left.text?, right.text? with
  | some a, some b => a == b
  | _, _ =>
      (left.isNumber || right.isNumber) &&
        left.toNumber.compare right.toNumber == some .eq

mutual

/-- The equality of templates. -/
def looseEq : Value → Value → Bool
  | nil, nil => true
  | nil, _ | _, nil => false
  | bool a, bool b => a == b
  | list items, list others => looseEqItems items others
  | map entries, map others => looseEqEntries entries others
  | object identity _, object other _ => identity == other
  | left, right => scalarEq left right

def looseEqItems : List Value → List Value → Bool
  | [], [] => true
  | first :: rest, other :: others => looseEq first other && looseEqItems rest others
  | _, _ => false

def looseEqEntries : List (String × Value) → List (String × Value) → Bool
  | [], [] => true
  | (key, first) :: rest, (otherKey, other) :: others =>
      key == otherKey && looseEq first other && looseEqEntries rest others
  | _, _ => false

end

end Value

end Stencil

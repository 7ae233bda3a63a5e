/-!
# Doubles as integers

A finite double is an integer times a power of two. Operations that must be exact, and that the
machine does not offer, are done on these integers: cutting off the fraction, and the remainder of
a division.
-/

namespace Stencil.Decimal

/-- The number `mantissa · 2 ^ exponent`. -/
structure Dyadic where
  mantissa : Nat
  exponent : Int
deriving Repr, DecidableEq

/-- What the bits of a double stand for. -/
inductive Shape where
  | nan
  | infinite (negative : Bool)
  | finite (negative : Bool) (magnitude : Dyadic)
deriving Repr, DecidableEq

/-- One sign bit, eleven bits of exponent, fifty-two of fraction. -/
def shape (x : Float) : Shape :=
  let bits := x.toBits.toNat
  let negative := bits / 0x8000000000000000 == 1
  let exponent : Nat := bits / 0x10000000000000 % 0x800
  let fraction : Nat := bits % 0x10000000000000
  if exponent = 2047 then
    if fraction = 0 then .infinite negative else .nan
  else if exponent = 0 then
    .finite negative ⟨fraction, -1074⟩
  else
    .finite negative ⟨0x10000000000000 + fraction, (exponent : Int) - 1075⟩

/-- The integer part of a magnitude. -/
def Dyadic.floor (magnitude : Dyadic) : Nat :=
  if 0 ≤ magnitude.exponent then magnitude.mantissa * Nat.pow 2 magnitude.exponent.toNat
  else magnitude.mantissa / Nat.pow 2 (-magnitude.exponent).toNat

def signed (negative : Bool) (n : Nat) : Int :=
  if negative then -n else n

/-- The integer nearest to `x` on the way to zero, brought into the given range. -/
def truncate (least greatest : Int) (x : Float) : Int :=
  match shape x with
  | .nan => 0
  | .infinite negative => if negative then least else greatest
  | .finite negative magnitude => max least (min greatest (signed negative magnitude.floor))

/-- The double nearest to an integer, a tie going to the even one. -/
def ofInt (n : Int) : Float :=
  if n < 0 then -(Float.ofScientific n.natAbs false 0) else Float.ofScientific n.natAbs false 0

/-- The mantissa of a magnitude written with a smaller or equal exponent. -/
def Dyadic.mantissaAt (magnitude : Dyadic) (exponent : Int) : Nat :=
  magnitude.mantissa * Nat.pow 2 (magnitude.exponent - exponent).toNat

/-- A magnitude of at most fifty-three bits as a double; it is exact. -/
def Dyadic.toFloat (magnitude : Dyadic) : Float :=
  (Float.ofScientific magnitude.mantissa false 0).scaleB magnitude.exponent

/-- The rest of a division whose quotient is cut to an integer: it has the sign of `x`. -/
def remainder (x y : Float) : Float :=
  match shape x, shape y with
  | .nan, _ | _, .nan | .infinite _, _ => 0.0 / 0.0
  | .finite _ _, .infinite _ => x
  | .finite negative left, .finite _ right =>
      if right.mantissa = 0 then 0.0 / 0.0
      else
        let exponent := min left.exponent right.exponent
        let rest := left.mantissaAt exponent % right.mantissaAt exponent
        let magnitude := Dyadic.toFloat ⟨rest, exponent⟩
        if negative then -magnitude else magnitude

end Stencil.Decimal

/-!
# Variable-length integers

A natural number is written in groups of seven bits, the lowest first, with the high bit set on
every byte but the last. An integer is first folded into a natural number so that small magnitudes
stay small. Readers take the bytes they need from the front and hand back the rest.
-/

namespace Stencil.Wire

abbrev Bytes := List UInt8

/-- Takes a value from the front of some bytes. -/
abbrev Reader (α : Type) := Bytes → Option (α × Bytes)

def writeNat (n : Nat) : Bytes :=
  if n < 128 then [UInt8.ofNat n] else UInt8.ofNat (n % 128 + 128) :: writeNat (n / 128)
termination_by n
decreasing_by omega

/-- Reads a number of at most `groups` bytes, whose last may not exceed `top` if all are used.
Numbers padded with zero groups are accepted. -/
def readNat (top : Nat) : (groups : Nat) → Reader Nat
  | 0, _ => none
  | _ + 1, [] => none
  | groups + 1, byte :: rest =>
      if byte.toNat < 128 then
        if groups = 0 ∧ top < byte.toNat then none else some (byte.toNat, rest)
      else
        match readNat top groups rest with
        | some (high, tail) => some (byte.toNat - 128 + 128 * high, tail)
        | none => none

/-- Numbers below `2 ^ 64`. -/
def readNat64 : Reader Nat :=
  readNat 1 10

/-- Numbers below `2 ^ 32`. -/
def readNat32 : Reader Nat :=
  readNat 15 5

/-- Even numbers stand for the integers from zero on, odd ones for the negative integers. -/
def fold (n : Int) : Nat :=
  if 0 ≤ n then (2 * n).toNat else (-2 * n - 1).toNat

def unfold (n : Nat) : Int :=
  if n % 2 = 0 then n / 2 else -((n + 1) / 2 : Nat)

theorem unfold_fold (n : Int) : unfold (fold n) = n := by
  unfold unfold fold
  split <;> split <;> omega

end Stencil.Wire

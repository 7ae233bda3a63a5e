import Stencil.Decimal.Style

/-!
# Numbers from text

Integers are an optional sign and digits, within a range. A double may also be written with a
point, which needs a digit on one side, and an exponent, or be one of the words `inf`, `infinity`
and `nan` in any mix of cases; it is the double nearest to the number that is written.
-/

namespace Stencil.Decimal

/-- The value of a string of digits, continuing from `start`. -/
def valueFrom (base start : Nat) : List Nat → Nat
  | [] => start
  | digit :: rest => valueFrom base (start * base + digit) rest

def digitValue? (c : Char) : Option Nat :=
  if c.isDigit then some (c.toNat - 48) else none

/-- The number that a non-empty string of digits denotes. -/
def readNat? (text : List Char) : Option Nat :=
  if text = [] then none
  else (text.mapM digitValue?).map (valueFrom 10 0)

/-- A sign, where there is one, and what follows it. -/
def takeSign : List Char → Bool × List Char
  | '-' :: rest => (true, rest)
  | '+' :: rest => (false, rest)
  | text => (false, text)

def readInt? (text : List Char) : Option Int :=
  let (negative, digits) := takeSign text
  (readNat? digits).map (signed negative)

/-- A signed word of sixty-four bits. -/
def readInt64? (text : List Char) : Option Int64 := do
  let n ← readInt? text
  if -0x8000000000000000 ≤ n ∧ n < 0x8000000000000000 then some (Int64.ofInt n) else none

/-- An unsigned word of sixty-four bits; it takes no minus sign. -/
def readUInt64? (text : List Char) : Option UInt64 := do
  let digits := match text with
    | '+' :: rest => rest
    | text => text
  let n ← readNat? digits
  if n < 0x10000000000000000 then some (UInt64.ofNat n) else none

def infinityBits : UInt64 := 0x7ff0000000000000

def nanBits : UInt64 := 0x7ff8000000000000

/-- The bits of a magnitude nearest to `digits · 10 ^ exponent`. Far outside the range of doubles
the power is not computed. -/
def nearestBits (digits : Nat) (exponent : Int) : UInt64 :=
  let leading := exponent + (digitsOf digits).length
  if digits = 0 ∨ leading < -400 then 0
  else if 400 < leading then infinityBits
  else (Float.ofScientific digits (exponent < 0) exponent.natAbs).toBits

/-- The exponent that ends a number; none counts as zero. -/
def readExponent? : List Char → Option Int
  | [] => some 0
  | mark :: rest => if mark = 'e' ∨ mark = 'E' then readInt? rest else none

/-- A number without a sign. -/
def readMagnitude? (text : List Char) : Option UInt64 := do
  let whole := text.takeWhile Char.isDigit
  let tail := text.dropWhile Char.isDigit
  let (fraction, tail) := match tail with
    | '.' :: rest => (rest.takeWhile Char.isDigit, rest.dropWhile Char.isDigit)
    | _ => ([], tail)
  let digits ← readNat? (whole ++ fraction)
  let exponent ← readExponent? tail
  return nearestBits digits (exponent - fraction.length)

/-- The words for values that are no numbers. -/
def readWord? (text : List Char) : Option UInt64 :=
  match String.ofList (text.map Char.toLower) with
  | "inf" | "infinity" => some infinityBits
  | "nan" => some nanBits
  | _ => none

/-- The bits of the double that a text denotes. The sign is kept also on zero and on `nan`. -/
def readBits? (text : List Char) : Option UInt64 := do
  let (negative, rest) := takeSign text
  let bits ← (readMagnitude? rest).orElse fun _ => readWord? rest
  return if negative then bits ||| 0x8000000000000000 else bits

def readFloat? (text : List Char) : Option Float :=
  (readBits? text).map Float.ofBits

end Stencil.Decimal

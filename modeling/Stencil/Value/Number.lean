import Stencil.Decimal.Reader
import Stencil.Fault
import Stencil.Text.Trim
import Stencil.Value.Basic

/-!
# Arithmetic

Every value has a numeric view. Integers are combined exactly and put into the smallest kind that
holds the result; only results outside the range of both kinds, and quotients that are not whole,
become floats.
-/

namespace Stencil

/-- A value as arithmetic sees it. -/
inductive Number where
  | int (n : Int64)
  | uint (n : UInt64)
  | float (x : Float)
deriving DecidableEq

namespace Number

def toFloat : Number → Float
  | int n => Decimal.ofInt n.toInt
  | uint n => Decimal.ofInt n.toNat
  | float x => x

/-- The integer that a number is, if it is of an integer kind. -/
def toInt? : Number → Option Int
  | int n => some n.toInt
  | uint n => some n.toNat
  | float _ => none

def isZero : Number → Bool
  | int n => n == 0
  | uint n => n == 0
  | float x => x == 0.0

def isUnsigned : Number → Bool
  | uint _ => true
  | _ => false

def toValue : Number → Value
  | int n => .int n
  | uint n => .uint n
  | float x => .float x

/-- Reads a number from a text that holds nothing else, an integer if it can be one. -/
def read? (text : List Char) : Option Number :=
  match Decimal.readInt64? text with
  | some n => some (int n)
  | none =>
      match Decimal.readUInt64? text with
      | some n => some (uint n)
      | none => (Decimal.readFloat? text).map float

end Number

namespace Value

/-- The numeric view: texts are read, and what is no number counts as zero. -/
def toNumber : Value → Number
  | int n => .int n
  | uint n => .uint n
  | float x => .float x
  | bool b => .int (if b then 1 else 0)
  | text s | raw s => (Number.read? (Text.trim s.toList)).getD (.int 0)
  | _ => .int 0

def leastInt : Int := -0x8000000000000000

def greatestInt : Int := 0x7fffffffffffffff

def greatestUInt : Int := 0xffffffffffffffff

/-- The integer view: fractions are cut off, and what is out of range becomes the nearest end. -/
def toInteger (value : Value) : Int :=
  match value.toNumber with
  | .int n => n.toInt
  | .uint n => min n.toNat greatestInt
  | .float x => Decimal.truncate leastInt greatestInt x

/-- The value of an integer: unsigned where asked for and possible, else signed where possible,
else unsigned where possible, else a float. -/
def ofInteger (n : Int) (unsigned : Bool) : Value :=
  if unsigned ∧ 0 ≤ n ∧ n ≤ greatestUInt then uint (UInt64.ofNat n.toNat)
  else if leastInt ≤ n ∧ n ≤ greatestInt then int (Int64.ofInt n)
  else if 0 ≤ n ∧ n ≤ greatestUInt then uint (UInt64.ofNat n.toNat)
  else float (Decimal.ofInt n)

def ofNat (n : Nat) : Value :=
  ofInteger n false

/-- The range within which intermediate integers are computed exactly. -/
def isExact (n : Int) : Bool :=
  -0x80000000000000000000000000000000 ≤ n &&
    n < 0x80000000000000000000000000000000

/-- Combines two numbers as integers if both are, and as floats otherwise. -/
def combine (exact : Int → Int → Int) (approximate : Float → Float → Float)
    (left right : Value) : Value :=
  let a := left.toNumber
  let b := right.toNumber
  match a.toInt?, b.toInt? with
  | some x, some y =>
      if isExact (exact x y) then ofInteger (exact x y) (a.isUnsigned && b.isUnsigned)
      else float (approximate a.toFloat b.toFloat)
  | _, _ => float (approximate a.toFloat b.toFloat)

def add : Value → Value → Value :=
  combine (· + ·) (· + ·)

def sub : Value → Value → Value :=
  combine (· - ·) (· - ·)

def mul : Value → Value → Value :=
  combine (· * ·) (· * ·)

/-- A quotient of integers that comes out even is an integer. -/
def div (left right : Value) : Except Fault Value :=
  let a := left.toNumber
  let b := right.toNumber
  if b.isZero then .error .divisionByZero
  else
    match a.toInt?, b.toInt? with
    | some x, some y =>
        if x.tmod y = 0 then .ok (ofInteger (x.tdiv y) (a.isUnsigned && b.isUnsigned))
        else .ok (float (a.toFloat / b.toFloat))
    | _, _ => .ok (float (a.toFloat / b.toFloat))

/-- The rest of the division cut toward zero. -/
def rem (left right : Value) : Except Fault Value :=
  let a := left.toNumber
  let b := right.toNumber
  if b.isZero then .error .moduloByZero
  else
    match a.toInt?, b.toInt? with
    | some x, some y => .ok (ofInteger (x.tmod y) (a.isUnsigned && b.isUnsigned))
    | _, _ => .ok (float (Decimal.remainder a.toFloat b.toFloat))

/-- The negated number. The least signed integer has no signed negative and becomes a float. -/
def neg (value : Value) : Value :=
  match value.toNumber with
  | .int n =>
      if n.toInt = leastInt then float (-(Decimal.ofInt n.toInt)) else int (-n)
  | .uint n => ofInteger (-n.toNat) false
  | .float x => float (-x)

/-- The magnitude of the number. -/
def abs (value : Value) : Value :=
  match value.toNumber with
  | .int n => if n.toInt = leastInt then uint (UInt64.ofNat n.toInt.natAbs) else int n.abs
  | .uint n => uint n
  | .float x => float x.abs

end Value

end Stencil

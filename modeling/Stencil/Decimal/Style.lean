import Stencil.Decimal.Shortest

/-!
# Doubles as text

Two ways to write the shortest decimal of a double: the plain one, which never has an exponent and
gives whole numbers no fraction, and the one of listings, which marks whole numbers by `.0` and
writes very large and very small numbers with an exponent.
-/

namespace Stencil.Decimal

def digitsOf (n : Nat) : List Char :=
  Nat.toDigits 10 n

/-- The integer part and the fraction of a figure, without a point. -/
def Figure.positional (figure : Figure) : List Char × List Char :=
  let digits := digitsOf figure.digits
  if 0 ≤ figure.exponent then
    (if figure.digits = 0 then ['0'] else digits ++ List.replicate figure.exponent.toNat '0', [])
  else
    let places := (-figure.exponent).toNat
    let padded := List.replicate (places + 1 - digits.length) '0' ++ digits
    padded.splitAt (padded.length - places)

/-- One digit, the others after a point, and the exponent. -/
def Figure.scientific (figure : Figure) : List Char :=
  let digits := digitsOf figure.digits
  let exponent := figure.exponent + (digits.length - 1 : Nat)
  let fraction := if digits.tail = [] then [] else '.' :: digits.tail
  digits.take 1 ++ fraction ++ 'e' :: (toString exponent).toList

/-- How a kind of text writes numbers. -/
structure Style where
  /-- The fraction of a whole number. -/
  wholeFraction : List Char
  /-- Whether a figure other than zero takes the form with an exponent. -/
  usesExponent : Figure → Bool

/-- Whether a figure is below `1e-4` or from `1e16` on. -/
def Figure.isExtreme (figure : Figure) : Bool :=
  let leading := figure.exponent + (digitsOf figure.digits).length
  leading ≤ -4 || 16 < leading

/-- Numbers as templates print them. -/
def plain : Style where
  wholeFraction := []
  usesExponent _ := false

/-- Numbers as listings show them. -/
def listing : Style where
  wholeFraction := ['.', '0']
  usesExponent := Figure.isExtreme

def Style.magnitude (style : Style) (figure : Figure) : List Char :=
  if figure.digits ≠ 0 && style.usesExponent figure then figure.scientific
  else
    let (whole, fraction) := figure.positional
    whole ++ if fraction = [] then style.wholeFraction else '.' :: fraction

def Style.write (style : Style) (x : Float) : String :=
  let sign (negative : Bool) : List Char := if negative then ['-'] else []
  match shape x with
  | .nan => "NaN"
  | .infinite negative => .ofList (sign negative ++ ['i', 'n', 'f'])
  | .finite negative magnitude =>
      .ofList (sign negative ++ style.magnitude magnitude.shortest)

end Stencil.Decimal

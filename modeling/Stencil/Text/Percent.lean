import Stencil.Text.Bytes

/-!
# Percent encoding

Every UTF-8 byte other than an ASCII letter or digit, `-` or `.` is written as a percent sign and
two upper-case hexadecimal digits.
-/

namespace Stencil.Text.Percent

/-- The bytes that stand as themselves. -/
def isPlain (byte : UInt8) : Bool :=
  let c := Char.ofNat byte.toNat
  c.isAlphanum || c == '-' || c == '.'

def encodeByte (byte : UInt8) : List Char :=
  if isPlain byte then [Char.ofNat byte.toNat] else '%' :: hexPair true byte

def encode (text : String) : String :=
  .ofList ((utf8 text).flatMap encodeByte)

theorem toList_encode (text : String) :
    (encode text).toList = (utf8 text).flatMap encodeByte := by
  simp [encode]

end Stencil.Text.Percent

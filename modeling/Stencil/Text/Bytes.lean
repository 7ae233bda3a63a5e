/-!
# Texts as bytes

The UTF-8 bytes of a text, and hexadecimal digits.
-/

namespace Stencil.Text

def utf8 (text : String) : List UInt8 :=
  text.toList.flatMap String.utf8EncodeChar

/-- The text that some bytes encode, if they are well-formed UTF-8. -/
def ofUtf8? (bytes : List UInt8) : Option String :=
  String.fromUTF8? ⟨bytes.toArray⟩

/-- The digit of a number below sixteen; `upper` chooses the letters. -/
def hexDigit (upper : Bool) (n : Nat) : Char :=
  if n < 10 then Char.ofNat (48 + n)
  else Char.ofNat ((if upper then 55 else 87) + n)

/-- The two digits of a byte. -/
def hexPair (upper : Bool) (byte : UInt8) : List Char :=
  [hexDigit upper (byte.toNat / 16), hexDigit upper (byte.toNat % 16)]

/-- The number that a hexadecimal digit stands for. -/
def hexValue? (c : Char) : Option Nat :=
  if '0' ≤ c ∧ c ≤ '9' then some (c.toNat - 48)
  else if 'a' ≤ c ∧ c ≤ 'f' then some (c.toNat - 87)
  else if 'A' ≤ c ∧ c ≤ 'F' then some (c.toNat - 55)
  else none

/-- Reads digits in pairs, a byte each. -/
def ofHex? : List Char → Option (List UInt8)
  | [] => some []
  | high :: low :: rest => do
      let h ← hexValue? high
      let l ← hexValue? low
      let bytes ← ofHex? rest
      return UInt8.ofNat (16 * h + l) :: bytes
  | _ => none

def toHex (bytes : List UInt8) : String :=
  .ofList (bytes.flatMap (hexPair false))

end Stencil.Text

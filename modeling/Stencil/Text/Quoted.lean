import Stencil.Unicode.Printable

/-!
# Quoted texts

A text between double quotes, as listings show it. Quote and backslash are written after a
backslash, the usual control characters by letter, and every other character that would not be
seen, or would join its neighbour, by its code point.
-/

namespace Stencil.Text.Quoted

/-- A code point in braces, in lower-case hexadecimal without leading zeros. -/
def codePoint (c : Char) : List Char :=
  "\\u\x7b".toList ++ Nat.toDigits 16 c.toNat ++ ['\x7d']

def encodeChar (c : Char) : List Char :=
  match c with
  | '"' => ['\\', '"']
  | '\\' => ['\\', '\\']
  | '\n' => ['\\', 'n']
  | '\r' => ['\\', 'r']
  | '\t' => ['\\', 't']
  | '\x00' => ['\\', '0']
  | c => if Unicode.isVisible c then [c] else codePoint c

def encode (text : String) : String :=
  .ofList ('"' :: text.toList.flatMap encodeChar ++ ['"'])

end Stencil.Text.Quoted

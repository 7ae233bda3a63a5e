import Stencil.Unicode.Blank

/-!
# Trimming

Blank characters are dropped from the start or the end of a text.
-/

namespace Stencil.Text

open Unicode (isBlank)

def trimStart (text : List Char) : List Char :=
  text.dropWhile isBlank

def trimEnd (text : List Char) : List Char :=
  (text.reverse.dropWhile isBlank).reverse

def trim (text : List Char) : List Char :=
  trimEnd (trimStart text)

end Stencil.Text

import Stencil.Unicode.CaseTable

/-!
# Case mapping

Full case mappings of a text: one character may become several (`ß` becomes `SS`), and a capital
sigma at the end of a word becomes the final small sigma.
-/

namespace Stencil.Unicode

/-- The point that a one-to-one mapping gives. -/
def shiftPoint (runs : List CaseRun) (point : Nat) : Nat :=
  match runs.find? (·.covers point) with
  | some run => (point + run.distance).toNat
  | none => point

/-- The characters that one character maps to. -/
def mapCase (runs : List CaseRun) (expansions : List (Nat × List Nat)) (c : Char) : List Char :=
  match expansions.lookup c.toNat with
  | some points => points.map Char.ofNat
  | none => [Char.ofNat (shiftPoint runs c.toNat)]

def upperChar (c : Char) : List Char :=
  if c.toNat < 128 then [c.toUpper] else mapCase upperRuns upperExpansions c

def lowerChar (c : Char) : List Char :=
  if c.toNat < 128 then [c.toLower] else mapCase lowerRuns lowerExpansions c

def isUppercase (c : Char) : Bool :=
  within uppercaseBounds c.toNat

def isCased (c : Char) : Bool :=
  within casedBounds c.toNat

def isCaseIgnorable (c : Char) : Bool :=
  within caseIgnorableBounds c.toNat

/-- Whether the first character that case mapping does not ignore is a cased one. -/
def reachesCased (text : List Char) : Bool :=
  match text.dropWhile isCaseIgnorable with
  | [] => false
  | first :: _ => isCased first

/-- A sigma ends a word when a cased letter comes before it and none after it. -/
def sigmaAtEnd (before after : List Char) : Char :=
  if reachesCased before && !reachesCased after then 'ς' else 'σ'

/-- Lower case of the rest of a text, the characters before it given latest first. -/
def lowerAfter (before : List Char) : List Char → List Char
  | [] => []
  | 'Σ' :: rest => sigmaAtEnd before rest :: lowerAfter ('Σ' :: before) rest
  | first :: rest => lowerChar first ++ lowerAfter (first :: before) rest

def lower (text : List Char) : List Char :=
  lowerAfter [] text

def upper (text : List Char) : List Char :=
  text.flatMap upperChar

end Stencil.Unicode

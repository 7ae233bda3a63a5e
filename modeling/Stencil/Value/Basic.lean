import Stencil.Decimal.Style
import Stencil.Dictionary

/-!
# Values

What templates compute with. Texts come in two kinds: plain ones, which are escaped when they are
printed, and raw ones, which are printed as they are.
-/

namespace Stencil

/-- Tells objects apart. Some are given to a run; others are made while it lasts. -/
inductive Identity where
  | given (number : Nat)
  | made (number : Nat)
deriving Repr, DecidableEq

mutual

inductive Value where
  | nil
  | bool (b : Bool)
  | int (n : Int64)
  | uint (n : UInt64)
  | float (x : Float)
  | text (s : String)
  | raw (s : String)
  | list (items : List Value)
  | map (entries : List (String × Value))
  | object (identity : Identity) (state : Object)

inductive Object where
  /-- A named bag of fields. -/
  | record (typeName : String) (fields : List (String × Value))
  /-- The state of a loop over a list, with the neighbours of the present element. -/
  | loop (index size : Nat) (previous next : Value)
  /-- An object of the program that renders the template, known by its class. -/
  | host (className : String)

end

instance : Inhabited Value := ⟨.nil⟩

def Object.typeName : Object → String
  | record typeName _ => typeName
  | loop .. => "loop"
  | host className => className

namespace Value

def typeName : Value → String
  | nil => "nil"
  | bool _ => "bool"
  | int _ => "int"
  | uint _ => "uint"
  | float _ => "float"
  | text _ | raw _ => "string"
  | list _ => "list"
  | map _ => "map"
  | object _ state => state.typeName

def isNil : Value → Bool
  | nil => true
  | _ => false

/-- Nil, zero and whatever is empty count as false. -/
def isTruthy : Value → Bool
  | nil => false
  | bool b => b
  | int n => n != 0
  | uint n => n != 0
  | float x => x != 0.0
  | text s | raw s => s != ""
  | list items => !items.isEmpty
  | map entries => !entries.isEmpty
  | object .. => true

/-- The text of a text value, raw or not. -/
def text? : Value → Option String
  | text s | raw s => some s
  | _ => none

mutual

/-- The text that stands for a value. -/
def display : Value → String
  | nil => ""
  | bool b => if b then "true" else "false"
  | int n => toString n.toInt
  | uint n => toString n.toNat
  | float x => Decimal.plain.write x
  | text s | raw s => s
  | list items => "[" ++ ", ".intercalate (displayItems items) ++ "]"
  | map entries => "\x7b" ++ ", ".intercalate (displayEntries entries) ++ "\x7d"
  | object _ state => "<" ++ state.typeName ++ ">"

def displayItems : List Value → List String
  | [] => []
  | first :: rest => display first :: displayItems rest

def displayEntries : List (String × Value) → List String
  | [] => []
  | (key, first) :: rest => (key ++ ": " ++ display first) :: displayEntries rest

end

end Value

end Stencil

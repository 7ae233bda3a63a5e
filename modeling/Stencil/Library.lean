import Stencil.Value.Object
import Stencil.Value.Order

/-!
# Libraries

The functions and host classes that templates can use, and how fields, elements and methods of a
value are found with them.
-/

namespace Stencil

structure Library where
  /-- Functions by name. -/
  functions : String → Option (List Value → Answer)
  /-- Classes of host objects by name. -/
  classes : String → HostClass

namespace Library

/-- The library with nothing but the built-in functions. -/
def builtins : Library where
  functions := Function.builtin?
  classes _ := .empty

/-- Offers one more function, which hides another of the same name. -/
def register (library : Library) (name : String) (function : List Value → Answer) : Library where
  functions other := if other = name then some function else library.functions other
  classes := library.classes

/-- Offers one more class of host objects. -/
def registerClass (library : Library) (name : String) (hostClass : HostClass) : Library where
  functions := library.functions
  classes other := if other = name then hostClass else library.classes other

def call (library : Library) (name : String) (arguments : List Value) : Answer :=
  match library.functions name with
  | some function => function arguments
  | none => .error (.unknownFunction name)

/-- A method of the value itself, else of its class, else a function that takes the value as its
first argument. -/
def callMethod (library : Library) (value : Value) (name : String) (arguments : List Value) :
    Answer :=
  match value.method? name arguments with
  | some answer => answer
  | none =>
      let ofObject := match value with
        | .object _ object => object.method? library.classes name arguments
        | _ => none
      match ofObject with
      | some answer => answer
      | none =>
          match library.functions name with
          | some function => function (value :: arguments)
          | none => .error (.noMethod value.typeName name)

theorem callMethod_of_method? {library : Library} {value : Value} {name : String}
    {arguments : List Value} {answer : Answer}
    (found : value.method? name arguments = some answer) :
    library.callMethod value name arguments = answer := by
  unfold callMethod
  rw [found]

/-- `value.name`: nil where there is no such field. -/
def fetchField (library : Library) (value : Value) (name : String) : Answer :=
  match value with
  | .nil => .ok .nil
  | .map entries => .ok ((Dictionary.find? entries name).getD .nil)
  | .object _ object => .ok ((object.lookup? library.classes name).getD .nil)
  | other => (other.method? name []).getD (.ok .nil)

/-- The place of an element in a list, counted from the end if it is negative. -/
def position? (size : Nat) (index : Int) : Option Nat :=
  let place := if index < 0 then size + index else index
  if place < 0 then none else some place.toNat

/-- `value[index]`: nil where there is no such element. -/
def fetchElement (library : Library) (value index : Value) : Value :=
  match value with
  | .list items =>
      ((position? items.length index.toInteger).bind (items[·]?)).getD .nil
  | .map entries => (Dictionary.find? entries index.display).getD .nil
  | .object _ object => (object.lookup? library.classes index.display).getD .nil
  | _ => .nil

end Library

end Stencil

import Stencil.Value.Function

/-!
# Objects

Fields are looked up by their exact name, then by the name with its first letter raised, then
without regard to the case of ASCII letters. Methods are looked up in the first two ways.
-/

namespace Stencil

/-- What a class of the program that renders the template offers to templates. -/
structure HostClass where
  field : String → Option Value
  fieldNames : List String
  method : String → List Value → Option Answer

/-- A class without fields and methods. -/
def HostClass.empty : HostClass where
  field _ := none
  fieldNames := []
  method _ _ := none

namespace Object

/-- The name of a loop field without underscores and capitals. -/
def loopKey (name : String) : String :=
  .ofList ((name.toList.filter (· ≠ '_')).flatMap Unicode.lowerChar)

/-- The state of a loop at one of the elements of a list. -/
def loopAt (index : Nat) (items : List Value) : Object :=
  let previous := if index = 0 then .nil else items[index - 1]?.getD .nil
  .loop index items.length previous (items[index + 1]?.getD .nil)

def loopField (index size : Nat) (previous next : Value) (name : String) : Option Value :=
  match loopKey name with
  | "index" => some (.ofNat index)
  | "count" => some (.ofNat (index + 1))
  | "size" => some (.ofNat size)
  | "maxindex" | "max" => some (.ofInteger (size - 1 : Int) false)
  | "isfirst" | "first" => some (.bool (index == 0))
  | "islast" | "last" => some (.bool (index + 1 == size))
  | "peekprev" | "prev" => some previous
  | "peeknext" | "next" => some next
  | _ => none

def loopFieldNames : List String :=
  ["index", "count", "size", "max_index", "is_first", "is_last", "peek_prev", "peek_next"]

variable (classes : String → HostClass)

/-- A field under its exact name. -/
def field? : Object → String → Option Value
  | record _ fields, name => Dictionary.find? fields name
  | loop index size previous next, name => loopField index size previous next name
  | host className, name => (classes className).field name

def fieldNames : Object → List String
  | record _ fields => Dictionary.keys fields
  | loop .. => loopFieldNames
  | host className => (classes className).fieldNames

/-- A method under its exact name. A loop answers to its fields without arguments. -/
def ownMethod? : Object → String → List Value → Option Answer
  | record .., _, _ => none
  | loop index size previous next, name, [] =>
      (loopField index size previous next name).map .ok
  | loop .., _, _ :: _ => none
  | host className, name, arguments => (classes className).method name arguments

/-- The name with its first letter raised, unless that is a capital already. -/
def capitalize? (name : String) : Option String :=
  match name.toList with
  | [] => none
  | first :: rest =>
      if Unicode.isUppercase first then none
      else some (.ofList (Unicode.upperChar first ++ rest))

/-- Whether two names differ at most in the case of ASCII letters. -/
def sameIgnoringCase (left right : String) : Bool :=
  left.toList.map Char.toLower == right.toList.map Char.toLower

def lookup? (object : Object) (name : String) : Option Value :=
  (object.field? classes name).or <|
    ((capitalize? name).bind (object.field? classes)).or <|
      ((object.fieldNames classes).find? (sameIgnoringCase · name)).bind (object.field? classes)

def method? (object : Object) (name : String) (arguments : List Value) : Option Answer :=
  (object.ownMethod? classes name arguments).or <|
    (capitalize? name).bind fun raised => object.ownMethod? classes raised arguments

end Object

end Stencil

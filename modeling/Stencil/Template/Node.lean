import Stencil.Place

/-!
# Template trees

A template is a list of nodes. Some nodes are expressions and stand for a value; the others are
statements. Variables that belong to the template are already resolved to numbered slots.
-/

namespace Stencil

namespace Node

inductive UnaryOp where
  | not
  | neg
deriving Repr, DecidableEq

inductive BinaryOp where
  | add | sub | mul | div | mod
  | concat
  | eq | ne | lt | gt | le | ge
  | and | or
deriving Repr, DecidableEq

def UnaryOp.name : UnaryOp → String
  | not => "Not"
  | neg => "Neg"

def BinaryOp.name : BinaryOp → String
  | add => "Add"
  | sub => "Sub"
  | mul => "Mul"
  | div => "Div"
  | mod => "Mod"
  | concat => "Concat"
  | eq => "Eq"
  | ne => "Ne"
  | lt => "Lt"
  | gt => "Gt"
  | le => "Le"
  | ge => "Ge"
  | and => "And"
  | or => "Or"

end Node

inductive Node where
  /-- Text outside tags. -/
  | text (place : Place) (content : String)
  | int (place : Place) (n : Int64)
  | uint (place : Place) (n : UInt64)
  | float (place : Place) (x : Float)
  | string (place : Place) (content : String)
  | bool (place : Place) (b : Bool)
  | nil (place : Place)
  /-- A variable of the template. -/
  | localVar (place : Place) (name : String) (slot : Nat)
  /-- A variable of the surroundings, looked up by name. -/
  | symbol (place : Place) (name : String)
  /-- The state of the loop whose element is in the slot. -/
  | loopVar (place : Place) (slot : Nat)
  | field (place : Place) (container : Node) (name : String)
  | index (place : Place) (container position : Node)
  | methodCall (place : Place) (invocant : Node) (name : String) (arguments : List Node)
  | functionCall (place : Place) (name : String) (arguments : List Node)
  | macroCall (place : Place) (name : String) (arguments : List Node)
  | filter (place : Place) (operand : Node) (name : String)
  | unary (place : Place) (op : Node.UnaryOp) (operand : Node)
  | binary (place : Place) (op : Node.BinaryOp) (left right : Node)
  /-- Stores a value in a slot, and stands for that value. -/
  | assign (place : Place) (name : String) (slot : Nat) (value : Node)
  | list (place : Place) (items : List Node)
  | range (place : Place) (first last : Node)
  | print (place : Place) (operand : Node)
  /-- Computes a value and drops it. -/
  | discard (place : Place) (operand : Node)
  | conditional (place : Place) (condition : Node) (positive negative : List Node)
  /-- The element is in `slot`, its index in the next slot and the list in the one after. -/
  | forLoop (place : Place) (element : String) (slot : Nat) (source : Node) (body : List Node)
      (maxIterations : Nat)
  /-- The slot holds the count of iterations. -/
  | whileLoop (place : Place) (condition : Node) (body : List Node) (slot maxIterations : Nat)
  | macroDef (place : Place) (name : String) (parameters : List String) (body : List Node)
  | inclusion (place : Place) (template : Node) (bindings : List (String × Node))
  | wrapper (place : Place) (template : Node) (bindings : List (String × Node))
      (body : List Node)

instance : Inhabited Node := ⟨.nil default⟩

namespace Node

def place : Node → Place
  | text place .. | int place .. | uint place .. | float place .. | string place ..
  | bool place .. | nil place | localVar place .. | symbol place .. | loopVar place ..
  | field place .. | index place .. | methodCall place .. | functionCall place ..
  | macroCall place .. | filter place .. | unary place .. | binary place .. | assign place ..
  | list place .. | range place .. | print place .. | discard place .. | conditional place ..
  | forLoop place .. | whileLoop place .. | macroDef place .. | inclusion place ..
  | wrapper place .. => place

/-- How error messages speak of a node. -/
def kindName : Node → String
  | text .. => "text"
  | int .. => "integer literal"
  | uint .. => "unsigned literal"
  | float .. => "float literal"
  | string .. => "string literal"
  | bool .. => "bool literal"
  | nil .. => "nil"
  | localVar .. => "local variable"
  | symbol .. => "variable"
  | loopVar .. => "loop"
  | field .. => "field access"
  | index .. => "index access"
  | methodCall .. => "method call"
  | functionCall .. => "function call"
  | macroCall .. => "macro call"
  | filter .. => "filter"
  | unary .. => "unary operator"
  | binary .. => "binary operator"
  | assign .. => "assignment"
  | list .. => "list literal"
  | range .. => "range"
  | print .. => "print"
  | discard .. => "call"
  | conditional .. => "if"
  | forLoop .. => "foreach"
  | whileLoop .. => "while"
  | macroDef .. => "macro"
  | inclusion .. => "include"
  | wrapper .. => "wrapper"

mutual

/-- A node and all below it, each before its parts and these in the order of evaluation. -/
def walk : Node → List Node
  | field place container name => field place container name :: walk container
  | index place container position =>
      index place container position :: (walk container ++ walk position)
  | methodCall place invocant name arguments =>
      methodCall place invocant name arguments :: (walk invocant ++ walkAll arguments)
  | functionCall place name arguments =>
      functionCall place name arguments :: walkAll arguments
  | macroCall place name arguments => macroCall place name arguments :: walkAll arguments
  | filter place operand name => filter place operand name :: walk operand
  | unary place op operand => unary place op operand :: walk operand
  | binary place op left right => binary place op left right :: (walk left ++ walk right)
  | assign place name slot value => assign place name slot value :: walk value
  | list place items => list place items :: walkAll items
  | range place first last => range place first last :: (walk first ++ walk last)
  | print place operand => print place operand :: walk operand
  | discard place operand => discard place operand :: walk operand
  | conditional place condition positive negative =>
      conditional place condition positive negative ::
        (walk condition ++ walkAll positive ++ walkAll negative)
  | forLoop place element slot source body maxIterations =>
      forLoop place element slot source body maxIterations :: (walk source ++ walkAll body)
  | whileLoop place condition body slot maxIterations =>
      whileLoop place condition body slot maxIterations :: (walk condition ++ walkAll body)
  | macroDef place name parameters body => macroDef place name parameters body :: walkAll body
  | inclusion place template bindings =>
      inclusion place template bindings :: (walk template ++ walkBindings bindings)
  | wrapper place template bindings body =>
      wrapper place template bindings body ::
        (walkAll body ++ walk template ++ walkBindings bindings)
  | leaf => [leaf]

def walkAll : List Node → List Node
  | [] => []
  | first :: rest => walk first ++ walkAll rest

def walkBindings : List (String × Node) → List Node
  | [] => []
  | (_, first) :: rest => walk first ++ walkBindings rest

end

end Node

structure Template where
  name : String
  nodes : List Node

def Template.walk (template : Template) : List Node :=
  Node.walkAll template.nodes

end Stencil

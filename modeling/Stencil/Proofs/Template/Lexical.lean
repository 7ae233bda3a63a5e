import Mathlib.Data.List.Basic
import Stencil.Template.Node
import Stencil.Template.Scope
import Stencil.Token.Basic

/-!
# Lexical scopes

What the names of a frame mean by the rules of the language, said of its nodes and the tokens they
come from and without a word on how slots are chosen. Loops open a scope, branches and contents do
not. A plain assignment goes to the nearest variable of its name, a `SET` only to one of the
innermost scope itself; either declares the variable there if there is none.
-/

namespace Stencil

namespace Template

/-- What can be seen at a point of a frame. -/
structure Lexical where
  scope : Scope
  /-- The scopes around it, the nearest first. -/
  outer : List Scope
  /-- The element slots of the loops around, the nearest first. -/
  loops : List Nat

namespace Lexical

def lookup? (lexical : Lexical) (name : String) : Option Nat :=
  (lexical.scope :: lexical.outer).findSome? (·.lookup name)

def declare (lexical : Lexical) (name : String) (slot : Nat) : Lexical :=
  { lexical with scope := (name, slot) :: lexical.scope }

/-- Inside a loop over a list. -/
def inFor (lexical : Lexical) (element : String) (slot : Nat) : Lexical where
  scope := [(element, slot)]
  outer := lexical.scope :: lexical.outer
  loops := slot :: lexical.loops

/-- Inside a conditional loop. -/
def inWhile (lexical : Lexical) : Lexical where
  scope := []
  outer := lexical.scope :: lexical.outer
  loops := lexical.loops

/-- At the start of the body of a macro; a later parameter hides an earlier one of its name. -/
def ofParameters (parameters : List String) : Lexical where
  scope := parameters.zipIdx.reverse
  outer := []
  loops := []

/-- The variable that an assignment to a name finds, for the token that it starts with. -/
inductive Finds (lexical : Lexical) (name : String) : Token → Option Nat → Prop
  | plain (place : Place) : Finds lexical name ⟨.ident, place, name⟩ (lexical.lookup? name)
  | set (place : Place) (word : String) :
      Finds lexical name ⟨.setWord, place, word⟩ (lexical.scope.lookup name)

/-- The variables of all scopes, also those that are hidden by others. -/
def entries (lexical : Lexical) : List (String × Nat) :=
  lexical.scope ++ lexical.outer.flatten

end Lexical

/-- What a frame hands out slots for. -/
inductive Declaration where
  /-- A parameter, or a variable at its first assignment. -/
  | named (name : String) (slot : Nat)
  /-- A loop over a list, with its element, index and list. -/
  | element (name : String) (slot : Nat)
  /-- The count of a conditional loop. -/
  | count (slot : Nat)
deriving Repr, DecidableEq

namespace Declaration

def slots : Declaration → List Nat
  | named _ slot => [slot]
  | element _ slot => [slot, slot + 1, slot + 2]
  | count slot => [slot]

/-- The variable that a declaration makes, with its name. -/
def entry? : Declaration → Option (String × Nat)
  | named name slot | element name slot => some (name, slot)
  | count _ => none

/-- The slots that no name stands for. -/
def hidden : Declaration → List Nat
  | named .. => []
  | element _ slot => [slot + 1, slot + 2]
  | count slot => [slot]

/-- Two declarations have no slot in common. -/
def Apart (one other : Declaration) : Prop :=
  List.Disjoint one.slots other.slots

def ofParameters (parameters : List String) : List Declaration :=
  parameters.zipIdx.map fun (name, slot) => named name slot

end Declaration

end Template

namespace Node

open Template (Lexical)

/-- A node of an expression means what its name means where it stands, and has the place of that
name. -/
def Refers (tokens : List Token) (lexical : Lexical) : Node → Prop
  | localVar place name slot =>
      ⟨.ident, place, name⟩ ∈ tokens ∧ lexical.lookup? name = some slot
  | loopVar place slot =>
      ⟨.ident, place, "loop"⟩ ∈ tokens ∧ lexical.lookup? "loop" = none ∧
        lexical.loops.head? = some slot
  | symbol place name =>
      ⟨.ident, place, name⟩ ∈ tokens ∧ lexical.lookup? name = none ∧
        (name = "loop" → lexical.loops = [])
  | text .. | assign .. | print .. | discard .. | conditional .. | forLoop .. | whileLoop ..
  | macroDef .. | inclusion .. | wrapper .. => False
  | _ => True

/-- An expression all whose names are read at one point. -/
def ReadAt (tokens : List Token) (lexical : Lexical) (node : Node) : Prop :=
  ∀ inner ∈ node.walk, inner.Refers tokens lexical

/-- The variable that a node reads or assigns. -/
def entry? : Node → Option (String × Nat)
  | localVar _ name slot | assign _ name slot _ => some (name, slot)
  | _ => none

mutual

/-- A node and all below it that belong to the same frame: not the bodies of macros. -/
def own : Node → List Node
  | field place container name => field place container name :: own container
  | index place container position =>
      index place container position :: (own container ++ own position)
  | methodCall place invocant name arguments =>
      methodCall place invocant name arguments :: (own invocant ++ ownAll arguments)
  | functionCall place name arguments =>
      functionCall place name arguments :: ownAll arguments
  | macroCall place name arguments => macroCall place name arguments :: ownAll arguments
  | filter place operand name => filter place operand name :: own operand
  | unary place op operand => unary place op operand :: own operand
  | binary place op left right => binary place op left right :: (own left ++ own right)
  | assign place name slot value => assign place name slot value :: own value
  | list place items => list place items :: ownAll items
  | range place first last => range place first last :: (own first ++ own last)
  | print place operand => print place operand :: own operand
  | discard place operand => discard place operand :: own operand
  | conditional place condition positive negative =>
      conditional place condition positive negative ::
        (own condition ++ ownAll positive ++ ownAll negative)
  | forLoop place element slot source body maxIterations =>
      forLoop place element slot source body maxIterations :: (own source ++ ownAll body)
  | whileLoop place condition body slot maxIterations =>
      whileLoop place condition body slot maxIterations :: (own condition ++ ownAll body)
  | inclusion place template bindings =>
      inclusion place template bindings :: (own template ++ ownBindings bindings)
  | wrapper place template bindings body =>
      wrapper place template bindings body ::
        (ownAll body ++ own template ++ ownBindings bindings)
  | leaf => [leaf]

def ownAll : List Node → List Node
  | [] => []
  | first :: rest => own first ++ ownAll rest

def ownBindings : List (String × Node) → List Node
  | [] => []
  | (_, first) :: rest => own first ++ ownBindings rest

end

end Node

namespace Template

open Node (ReadAt)

/-- Nodes that stand between two points of a frame mean there what their names mean, and declare
something on the way. -/
inductive Resolved (tokens : List Token) :
    Lexical → List Node → Lexical → List Declaration → Prop
  | nil {lexical} : Resolved tokens lexical [] lexical []
  | append {lexical between after nodes rest declared more}
      (first : Resolved tokens lexical nodes between declared)
      (second : Resolved tokens between rest after more) :
      Resolved tokens lexical (nodes ++ rest) after (declared ++ more)
  | text {lexical} (place : Place) (content : String) :
      Resolved tokens lexical [.text place content] lexical []
  | print {lexical operand} (place : Place) (read : ReadAt tokens lexical operand) :
      Resolved tokens lexical [.print place operand] lexical []
  | discard {lexical operand} (place : Place) (read : ReadAt tokens lexical operand) :
      Resolved tokens lexical [.discard place operand] lexical []
  /-- An assignment to a variable that is there. -/
  | assign {lexical name slot value token} (place : Place) (written : token ∈ tokens)
      (found : lexical.Finds name token (some slot)) (read : ReadAt tokens lexical value) :
      Resolved tokens lexical [.discard place (.assign token.place name slot value)] lexical []
  /-- An assignment that declares its variable, which its value does not see. -/
  | declare {lexical name slot value token} (place : Place) (written : token ∈ tokens)
      (missing : lexical.Finds name token none) (read : ReadAt tokens lexical value) :
      Resolved tokens lexical [.discard place (.assign token.place name slot value)]
        (lexical.declare name slot) [.named name slot]
  | conditional {lexical between after condition positive negative declared more} (place : Place)
      (read : ReadAt tokens lexical condition)
      (first : Resolved tokens lexical positive between declared)
      (second : Resolved tokens between negative after more) :
      Resolved tokens lexical [.conditional place condition positive negative] after
        (declared ++ more)
  | forLoop {lexical inner source body name slot declared} (place : Place) (most : Nat)
      (read : ReadAt tokens lexical source)
      (inside : Resolved tokens (lexical.inFor name slot) body inner declared) :
      Resolved tokens lexical [.forLoop place name slot source body most] lexical
        (.element name slot :: declared)
  | whileLoop {lexical inner condition body slot declared} (place : Place) (most : Nat)
      (read : ReadAt tokens lexical condition)
      (inside : Resolved tokens lexical.inWhile body inner declared) :
      Resolved tokens lexical [.whileLoop place condition body slot most] lexical
        (.count slot :: declared)
  | macroDef {lexical} (place : Place) (name : String) (parameters : List String)
      (body : List Node) :
      Resolved tokens lexical [.macroDef place name parameters body] lexical []
  | inclusion {lexical target bindings} (place : Place) (read : ReadAt tokens lexical target)
      (bound : ∀ binding ∈ bindings, ReadAt tokens lexical binding.2) :
      Resolved tokens lexical [.inclusion place target bindings] lexical []
  | wrapper {lexical after target bindings body declared} (place : Place)
      (read : ReadAt tokens lexical target)
      (bound : ∀ binding ∈ bindings, ReadAt tokens lexical binding.2)
      (inside : Resolved tokens lexical body after declared) :
      Resolved tokens lexical [.wrapper place target bindings body] after declared

/-- What has a frame of its own: a template, or the body of a macro. -/
structure Body where
  parameters : List String
  nodes : List Node

/-- With certain declarations, the names of a body mean what they should, no slot is handed out
twice, and no name stands for a slot that a loop keeps for itself. -/
structure Body.Laid (tokens : List Token) (body : Body) (declared : List Declaration) : Prop where
  resolved : ∃ after inner, declared = Declaration.ofParameters body.parameters ++ inner ∧
    Resolved tokens (.ofParameters body.parameters) body.nodes after inner
  disjoint : declared.Pairwise Declaration.Apart
  named : ∀ node ∈ Node.ownAll body.nodes, ∀ name slot, node.entry? = some (name, slot) →
    ∃ declaration ∈ declared, declaration.entry? = some (name, slot)
  apart : ∀ node ∈ Node.ownAll body.nodes, ∀ name slot, node.entry? = some (name, slot) →
    ∀ declaration ∈ declared, slot ∉ declaration.hidden

def Body.Hygienic (tokens : List Token) (body : Body) : Prop :=
  ∃ declared, body.Laid tokens declared

end Template

def Node.body? : Node → Option Template.Body
  | macroDef _ _ parameters body => some ⟨parameters, body⟩
  | _ => none

/-- The bodies of a template that have frames of their own. -/
def Template.frames (template : Stencil.Template) : List Template.Body :=
  ⟨[], template.nodes⟩ :: template.walk.filterMap Node.body?

end Stencil

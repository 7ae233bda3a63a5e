/-!
# Scopes and slots

The variables of one frame, which is the body of a template or of a macro. Slots are handed out in
increasing order and never given back, so that a variable of an inner scope has a slot of its own
even where it hides an outer one of the same name.
-/

namespace Stencil.Template

/-- The slots of the names of one scope. -/
abbrev Scope := List (String × Nat)

structure Frame where
  scope : Scope
  /-- The scopes around it, the nearest first. -/
  outer : List Scope
  nextSlot : Nat
  /-- The element slots of the loops around, the nearest first. -/
  loops : List Nat
deriving Repr

namespace Frame

def empty : Frame where
  scope := []
  outer := []
  nextSlot := 0
  loops := []

/-- The slot of the nearest variable of a name. -/
def lookup? (frame : Frame) (name : String) : Option Nat :=
  (frame.scope :: frame.outer).findSome? (·.lookup name)

/-- Takes the next slot for a variable of the innermost scope. -/
def declare (frame : Frame) (name : String) : Nat × Frame :=
  (frame.nextSlot,
    { frame with scope := (name, frame.nextSlot) :: frame.scope, nextSlot := frame.nextSlot + 1 })

/-- The slot that a plain assignment writes: an existing variable, else a new one. -/
def assignable (frame : Frame) (name : String) : Nat × Frame :=
  match frame.lookup? name with
  | some slot => (slot, frame)
  | none => frame.declare name

/-- The slot of a variable of the innermost scope itself. -/
def settable (frame : Frame) (name : String) : Nat × Frame :=
  match frame.scope.lookup name with
  | some slot => (slot, frame)
  | none => frame.declare name

/-- Opens the scope of a loop over a list: slots for the element, the index and the list. -/
def enterFor (frame : Frame) (element : String) : Nat × Frame :=
  (frame.nextSlot, {
    scope := [(element, frame.nextSlot)]
    outer := frame.scope :: frame.outer
    nextSlot := frame.nextSlot + 3
    loops := frame.nextSlot :: frame.loops })

/-- Opens the scope of a conditional loop, with a slot for its count. -/
def enterWhile (frame : Frame) : Nat × Frame :=
  (frame.nextSlot, {
    scope := []
    outer := frame.scope :: frame.outer
    nextSlot := frame.nextSlot + 1
    loops := frame.loops })

def leaveScope (frame : Frame) : Frame :=
  { frame with scope := frame.outer.headD [], outer := frame.outer.tail }

def leaveFor (frame : Frame) : Frame :=
  { frame.leaveScope with loops := frame.loops.tail }

/-- The frame of a macro, whose parameters have the first slots. -/
def ofParameters (parameters : List String) : Frame :=
  parameters.foldl (fun frame name => (frame.declare name).2) empty

end Frame

end Stencil.Template

import Stencil.Code.Basic
import Stencil.Failure
import Stencil.Library

/-!
# Machine states

The machine runs the code of a template. Each call of a macro or of another template has an
activation of its own, with its place in the code and the bindings passed to it. The registers and
the stacks are shared by all activations, and so is the list of their slots, in which each of them
knows where its own begin. `σ` is the state of whatever finds the templates that are included.
-/

namespace Stencil.Machine

/-- What the machine tells beside its output. -/
inductive Warning where
  | nilPrinted (template : String)
  | forStopped (template : String) (iterations : Nat)
  | whileStopped (template : String) (iterations : Nat)
deriving Repr, DecidableEq

def Warning.message : Warning → String
  | nilPrinted template => s!"{template}: printing nil value"
  | forStopped template iterations =>
      s!"{template}: FOREACH stopped after {iterations} iterations"
  | whileStopped template iterations =>
      s!"{template}: WHILE stopped after {iterations} iterations"

/-- What an activation was started by. -/
inductive Origin where
  | start (template : String)
  | callMacro (name : String)
  | inclusion (template : String)
deriving Repr, DecidableEq

def Origin.isMacro : Origin → Bool
  | callMacro _ => true
  | _ => false

/-- The name of an activation in the trace of an error. -/
def Origin.label : Origin → String
  | start template => template
  | callMacro name => s!"macro '{name}'"
  | inclusion template => template

/-- A stream of instructions under way. -/
structure Activation where
  origin : Origin
  /-- The template whose macros can be called. -/
  code : Code
  ops : Array Op
  ip : Nat
  /-- Where its slots begin among those of all activations. -/
  base : Nat
  bindings : Option (Dictionary Value)

structure State (σ : Type) where
  accumulator : Value
  second : Value
  /-- The operand stack, its top first. -/
  operands : List Value
  /-- Remembered heights of the operand stack, the latest first. -/
  marks : List Nat
  /-- The slots of all activations, those of the current one last. Slots beyond the end of the list
  are nil. -/
  slots : List Value
  current : Activation
  /-- The activations that wait for the current one, the nearest first. -/
  callers : List Activation
  /-- Captured output, the innermost first. -/
  captures : List String
  depth : Nat
  /-- How many objects have been made. -/
  made : Nat
  output : String
  warnings : Array Warning
  store : σ

/-- How deep calls may nest, and how many elements a range may have. -/
structure Limits where
  maxDepth : Nat
  maxRange : Nat
deriving Repr, DecidableEq

def Limits.standard : Limits where
  maxDepth := 100
  maxRange := 1000000

/-- Finds the code of a template by its name. -/
abbrev Loader (σ : Type) := String → σ → Except Failure Code × σ

structure Environment (σ : Type) where
  library : Library
  limits : Limits
  loader : Option (Loader σ)
  «variables» : Dictionary Value

/-! ## Slots -/

/-- Where the slot of an activation is among all slots. The sum is one of machine words and wraps
around. Since no list is as long as half of the words there are, that takes a large slot. -/
def slotAt (base slot : Nat) : Nat :=
  if slot < 0x8000000000000000 then base + slot else (base + slot) % 0x10000000000000000

/-- Puts a value at a place, after nil for the slots that are missing before it. -/
def setSlot (slots : List Value) (place : Nat) (value : Value) : List Value :=
  if place < slots.length then slots.set place value
  else slots ++ List.replicate (place - slots.length) .nil ++ [value]

theorem getElem?_setSlot_self (slots : List Value) (place : Nat) (value : Value) :
    (setSlot slots place value)[place]? = some value := by
  unfold setSlot
  split
  · next inside => simp [inside]
  · next outside =>
      have : slots.length + (place - slots.length) = place := by omega
      rw [List.getElem?_append_right (by simp; omega)]
      simp [this]

def Activation.advance (activation : Activation) : Activation :=
  { activation with ip := activation.ip + 1 }

namespace State

variable {σ : Type}

/-- Goes on to the next instruction. -/
def advance (state : State σ) : State σ :=
  { state with current := state.current.advance }

/-- Goes on with a new accumulator. -/
def yield (state : State σ) (value : Value) : State σ :=
  { state with accumulator := value }.advance

/-- Text goes to the innermost capture, else to the output. -/
def write (state : State σ) (text : String) : State σ :=
  match state.captures with
  | capture :: rest => { state with captures := (capture ++ text) :: rest }
  | [] => { state with output := state.output ++ text }

def warn (state : State σ) (warning : Warning) : State σ :=
  { state with warnings := state.warnings.push warning }

def load (state : State σ) (slot : Nat) : Value :=
  state.slots[slotAt state.current.base slot]?.getD .nil

def save (state : State σ) (slot : Nat) (value : Value) : State σ :=
  { state with slots := setSlot state.slots (slotAt state.current.base slot) value }

/-- The elements of the list in a slot; none if there is no list. -/
def items (state : State σ) (slot : Nat) : List Value :=
  match state.load slot with
  | .list items => items
  | _ => []

def pop (state : State σ) : Except Fault (Value × State σ) :=
  match state.operands with
  | top :: rest => .ok (top, { state with operands := rest })
  | [] => .error (.underflow "operand stack")

/-- The operands above the latest mark, the lowest first. -/
def popMarked (state : State σ) : Except Fault (List Value × State σ) :=
  match state.marks with
  | [] => .error (.underflow "mark stack")
  | mark :: marks =>
      if state.operands.length < mark then .error (.underflow "operand stack")
      else
        let count := state.operands.length - mark
        .ok ((state.operands.take count).reverse,
          { state with operands := state.operands.drop count, marks })

/-- The value of a name: from the nearest bindings that have it, else from the variables. -/
def lookup (vars : Dictionary Value) (state : State σ) (name : String) : Value :=
  let bound := (state.current :: state.callers).findSome? fun activation =>
    activation.bindings.bind (·.find? name)
  (bound.or (vars.find? name)).getD .nil

/-- Begins an activation whose first slots hold its arguments. What a macro writes is captured. -/
def call (state : State σ) (callee : Activation) (arguments : List Value) : State σ :=
  { state with
    current := { callee with base := state.slots.length }
    callers := state.current :: state.callers
    slots := state.slots ++ arguments
    captures := if callee.origin.isMacro then "" :: state.captures else state.captures }

/-- Ends the current activation, with its slots and its capture; its caller is the current one
again. -/
def giveBack (state : State σ) (caller : Activation) (callers : List Activation) : State σ :=
  { state with
    current := caller
    callers
    slots := state.slots.take state.current.base
    captures := if state.current.origin.isMacro then state.captures.tail else state.captures
    depth := state.depth - 1 }

end State

/-- What a step of the machine leads to. -/
inductive Outcome (σ : Type) where
  | running (state : State σ)
  | finished (state : State σ)
  | failed (failure : Failure) (state : State σ)

/-! ## Failures on their way out -/

/-- A failure ends the current activation and all that wait for it, and each one adds its name. -/
def raiseThrough (failure : Failure) (state : State σ) : List Activation → Outcome σ
  | [] => .failed (failure.within state.current.origin.label) state
  | caller :: callers =>
      raiseThrough (failure.within state.current.origin.label) (state.giveBack caller callers)
        callers

def raise (failure : Failure) (state : State σ) : Outcome σ :=
  raiseThrough failure state state.callers

/-- A failure that arises in the current activation. -/
def fail (state : State σ) (fault : Fault) : Outcome σ :=
  raise (.run ⟨fault, []⟩) state

end Stencil.Machine

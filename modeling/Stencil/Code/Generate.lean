import Stencil.Code.Check
import Stencil.Template.Node

/-!
# Generating code

Instructions are added to a stream one after another. An expression leaves its value in the
accumulator. A statement leaves both stacks as they were. A jump forward is added before it is known
how far it goes. Once the stream has grown to its target, it is pointed there.
-/

namespace Stencil

/-- Why a tree cannot be compiled. -/
inductive CompileError where
  /-- A statement where a value is needed. -/
  | unhandled (kindName : String)
  | nestedMacro (name : String)
  | jumpTooFar (source target : Nat)
  /-- There is no jump at the place of one that is to be pointed at its target. -/
  | noJump (place : Nat)
  | check (error : CheckError)
deriving Repr, DecidableEq

def CompileError.message : CompileError → String
  | unhandled kindName =>
      s!"compile error: cannot compile '{kindName}' node" ++
        "\n  hint: this node cannot be compiled in expression position"
  | nestedMacro name =>
      s!"compile error: macro '{name}': macros cannot be declared inside another block" ++
        "\n  hint: move the MACRO directive to the top level of the template"
  | jumpTooFar source target =>
      s!"compile error: internal error: jump from {source} to {target} is too far"
  | noJump place => s!"compile error: internal error: no jump instruction at {place} to patch"
  | check error => "compile error: " ++ error.message

namespace Generate

abbrev Result (α : Type) := Except CompileError α

/-- Whether the code of a node leaves the second register as it is. -/
def sparesSecond : Node → Bool
  | .int .. | .uint .. | .float .. | .string .. | .bool .. | .nil _ | .localVar .. | .symbol ..
  | .loopVar .. => true
  | .field _ container _ => sparesSecond container
  | _ => false

/-- The instruction of a filter. -/
def filterOp (name : String) : Op :=
  match name with
  | "html" => .escapeHtml
  | "uri" => .escapeUri
  | "raw" => .markRaw
  | _ => .filter name

def unaryOp : Node.UnaryOp → Op
  | .not => .not
  | .neg => .neg

/-- The instruction of an operator. Those of the logical ones have yet to be pointed behind the
right operand. -/
def binaryOp : Node.BinaryOp → Op
  | .and => .and 0
  | .or => .or 0
  | .add => .add
  | .sub => .sub
  | .mul => .mul
  | .div => .div
  | .mod => .mod
  | .concat => .concat
  | .eq => .eq
  | .ne => .ne
  | .lt => .lt
  | .gt => .gt
  | .le => .le
  | .ge => .ge

/-- Whether a distance fits into the thirty-two bits that a jump has for it. -/
def isNear (offset : Int) : Bool :=
  -0x80000000 ≤ offset && offset < 0x80000000

/-- The distance from one place to another. -/
def relative (source target : Nat) : Result Int :=
  let offset := (target : Int) - source
  if isNear offset then .ok offset else .error (.jumpTooFar source target)

end Generate

open Generate (Result sparesSecond filterOp unaryOp binaryOp relative)

/-- Work on a stream of instructions. -/
abbrev Emit := StateT (Array Op) Result

namespace Emit

/-- Adds an instruction. -/
def add (op : Op) : Emit Unit :=
  modify (·.push op)

/-- Adds an instruction and tells its place. -/
def emit (op : Op) : Emit Nat := do
  let ops ← get
  add op
  return ops.size

/-- Points the jump at a place to the next instruction that is added. -/
def patchToHere (place : Nat) : Emit Unit := do
  let ops ← get
  let offset ← relative place ops.size
  match ops[place]?.bind (·.withJump? offset) with
  | some op => set (ops.setIfInBounds place op)
  | none => throw (.noJump place)

/-- Adds a jump to a place. -/
def emitGoto (target : Nat) : Emit Unit := do
  let ops ← get
  let offset ← relative ops.size target
  add (.goto offset)

/-- Brings the left operand into the second register and the right one into the accumulator. -/
def operands (left right : Emit Unit) (spared : Bool) : Emit Unit := do
  left
  if spared then
    add .moveToSecond
    right
  else
    add .push
    right
    add .popToSecond

/-- Joins two operands. The logical operators pass over the right one. -/
def binary (op : Node.BinaryOp) (left right : Emit Unit) (spared : Bool) : Emit Unit :=
  match op with
  | .and | .or => do
      left
      let skip ← emit (binaryOp op)
      right
      patchToHere skip
  | _ => do
      operands left right spared
      add (binaryOp op)

mutual

/-- Adds code that computes the value of a node. -/
def expression : Node → Emit Unit
  | .int _ n => add (.literal (.int n))
  | .uint _ n => add (.literal (.uint n))
  | .float _ x => add (.literal (.float x.toBits))
  | .string _ s => add (.literal (.text s))
  | .bool _ b => add (.literal (.bool b))
  | .nil _ => add .loadNil
  | .localVar _ _ slot => add (.loadLocal slot)
  | .symbol _ name => add (.fetchSymbol name)
  | .loopVar _ slot => add (.loopState slot)
  | .field _ container name => do
      expression container
      add (.fetchField name)
  | .index _ container position => do
      expression container
      add .push
      expression position
      add .moveToSecond
      add .pop
      add .fetchElement
  | .methodCall _ invocant name arguments => do
      add .pushMark
      expression invocant
      add .push
      pushed arguments
      add (.callMethod name)
  | .functionCall _ name arguments => do
      add .pushMark
      pushed arguments
      add (.callFunction name)
  | .macroCall _ name arguments => do
      add .pushMark
      pushed arguments
      add (.callMacro name)
  | .filter _ operand name => do
      expression operand
      add (filterOp name)
  | .unary _ op operand => do
      expression operand
      add (unaryOp op)
  | .binary _ op left right =>
      binary op (expression left) (expression right) (sparesSecond right)
  | .assign _ _ slot value => do
      expression value
      add (.saveLocal slot)
  | .list _ items => do
      add .pushMark
      pushed items
      add .makeList
  | .range _ first last => do
      operands (expression first) (expression last) (sparesSecond last)
      add .range
  | other => throw (.unhandled other.kindName)

/-- Adds code that pushes the values of nodes in their order. -/
def pushed : List Node → Emit Unit
  | [] => pure ()
  | first :: rest => do
      expression first
      add .push
      pushed rest

/-- Adds code that pushes keys and values. -/
def pushedBindings : List (String × Node) → Emit Unit
  | [] => pure ()
  | (name, first) :: rest => do
      add (.literal (.text name))
      add .push
      expression first
      add .push
      pushedBindings rest

end

/-- Adds code that makes a map of bindings, or nil of none. -/
def bindings (bound : List (String × Node)) : Emit Unit :=
  if bound.isEmpty then add .loadNil
  else do
    add .pushMark
    pushedBindings bound
    add .makeMap

/-- Adds code that brings the name of a template and the bindings for it into the registers. -/
def target (template : Node) (bound : List (String × Node)) : Emit Unit := do
  expression template
  add .push
  bindings bound
  add .moveToSecond
  add .pop

mutual

/-- Adds code for a node inside a block. -/
def statement : Node → Emit Unit
  | .text _ s => do
      add (.literal (.text s))
      add .printRaw
  | .print _ operand => do
      expression operand
      add .print
  | .discard _ operand => expression operand
  | .conditional _ condition positive negative => do
      expression condition
      let skipPositive ← emit (.jumpIfFalse 0)
      block positive
      if negative.isEmpty then
        patchToHere skipPositive
      else
        -- Only a second branch needs a jump over it.
        let skipNegative ← emit (.goto 0)
        patchToHere skipPositive
        block negative
        patchToHere skipNegative
  | .forLoop _ _ slot source body max => do
      expression source
      add (.forStart slot)
      let top ← emit (.forNext slot max 0)
      block body
      emitGoto top
      patchToHere top
  | .whileLoop _ condition body slot max => do
      add (.literal (.int 0))
      add (.saveLocal slot)
      let top := (← get).size
      expression condition
      let conditionExit ← emit (.jumpIfFalse 0)
      add (.loopGuard slot max)
      let guardExit ← emit (.jumpIfFalse 0)
      block body
      emitGoto top
      patchToHere conditionExit
      patchToHere guardExit
  | .macroDef _ name _ _ => throw (.nestedMacro name)
  | .inclusion _ template bound => do
      target template bound
      add .inclusion
  | .wrapper _ template bound body => do
      add .beginCapture
      block body
      add .endCapture
      add .push
      target template bound
      add .wrapper
  | other => expression other

def block : List Node → Emit Unit
  | [] => pure ()
  | first :: rest => do
      statement first
      block rest

end

/-- The stream that results from work on an empty one, and its end. -/
def stream {α : Type} (emission : Emit α) : Result (α × List Op) := do
  let (result, ops) ← emission.run #[]
  return (result, (ops.push .halt).toList)

/-- Adds code for the nodes of a template and yields its macros, added to those before; of two
macros of one name the later stays. -/
def topLevel (macros : Dictionary MacroCode) : List Node → Emit (Dictionary MacroCode)
  | [] => return macros
  | .macroDef _ name parameters body :: rest => do
      let ((), ops) ← stream (block body)
      topLevel (macros.insert name ⟨parameters, ops⟩) rest
  | first :: rest => do
      statement first
      topLevel macros rest

end Emit

/-- Compiles a tree at some moment. -/
def Template.compile (template : Template) (now : Time) : Except CompileError Code := do
  let (macros, ops) ← Emit.stream (Emit.topLevel [] template.nodes)
  let code : Code := ⟨template.name, now, ops, macros⟩
  code.check.mapError .check
  return code

end Stencil

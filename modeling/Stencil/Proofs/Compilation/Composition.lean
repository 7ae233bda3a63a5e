import Stencil.Code.Generate

/-!
# Code in one piece

The code of a node, composed of the code of its parts. Since jumps carry their distance, they depend
only on the lengths of the runs that they pass, and there is nothing to be patched.
-/

namespace Stencil.Generate

/-- Brings the left operand into the second register and the right one into the accumulator. -/
def operands (left right : List Op) (spared : Bool) : List Op :=
  if spared then left ++ [.moveToSecond] ++ right
  else left ++ [.push] ++ right ++ [.popToSecond]

/-- Joins the code of two operands. The logical operators pass over the right one. -/
def binary (op : Node.BinaryOp) (left right : List Op) (spared : Bool) : List Op :=
  let both := operands left right spared
  match op with
  | .and => left ++ [.and (right.length + 1)] ++ right
  | .or => left ++ [.or (right.length + 1)] ++ right
  | .add => both ++ [.add]
  | .sub => both ++ [.sub]
  | .mul => both ++ [.mul]
  | .div => both ++ [.div]
  | .mod => both ++ [.mod]
  | .concat => both ++ [.concat]
  | .eq => both ++ [.eq]
  | .ne => both ++ [.ne]
  | .lt => both ++ [.lt]
  | .gt => both ++ [.gt]
  | .le => both ++ [.le]
  | .ge => both ++ [.ge]

mutual

/-- Code that computes the value of a node. -/
def expression : Node → Result (List Op)
  | .int _ n => .ok [.literal (.int n)]
  | .uint _ n => .ok [.literal (.uint n)]
  | .float _ x => .ok [.literal (.float x.toBits)]
  | .string _ s => .ok [.literal (.text s)]
  | .bool _ b => .ok [.literal (.bool b)]
  | .nil _ => .ok [.loadNil]
  | .localVar _ _ slot => .ok [.loadLocal slot]
  | .symbol _ name => .ok [.fetchSymbol name]
  | .loopVar _ slot => .ok [.loopState slot]
  | .field _ container name => do
      return (← expression container) ++ [.fetchField name]
  | .index _ container position => do
      let first ← expression container
      let second ← expression position
      return first ++ [.push] ++ second ++ [.moveToSecond, .pop, .fetchElement]
  | .methodCall _ invocant name arguments => do
      let first ← expression invocant
      let rest ← pushed arguments
      return [.pushMark] ++ first ++ [.push] ++ rest ++ [.callMethod name]
  | .functionCall _ name arguments => do
      return [.pushMark] ++ (← pushed arguments) ++ [.callFunction name]
  | .macroCall _ name arguments => do
      return [.pushMark] ++ (← pushed arguments) ++ [.callMacro name]
  | .filter _ operand name => do
      return (← expression operand) ++ [filterOp name]
  | .unary _ op operand => do
      return (← expression operand) ++ [unaryOp op]
  | .binary _ op left right => do
      let first ← expression left
      let second ← expression right
      return binary op first second (sparesSecond right)
  | .assign _ _ slot value => do
      return (← expression value) ++ [.saveLocal slot]
  | .list _ items => do
      return [.pushMark] ++ (← pushed items) ++ [.makeList]
  | .range _ first last => do
      let left ← expression first
      let right ← expression last
      return operands left right (sparesSecond last) ++ [.range]
  | other => .error (.unhandled other.kindName)

/-- Code that pushes the values of nodes in their order. -/
def pushed : List Node → Result (List Op)
  | [] => .ok []
  | first :: rest => do
      let code ← expression first
      return code ++ [.push] ++ (← pushed rest)

/-- Code that pushes keys and values. -/
def pushedBindings : List (String × Node) → Result (List Op)
  | [] => .ok []
  | (name, first) :: rest => do
      let code ← expression first
      return [.literal (.text name), .push] ++ code ++ [.push] ++ (← pushedBindings rest)

end

/-- Code that makes a map of bindings, or nil of none. -/
def bindings (bound : List (String × Node)) : Result (List Op) := do
  if bound.isEmpty then return [.loadNil]
  else return [.pushMark] ++ (← pushedBindings bound) ++ [.makeMap]

/-- Code that brings the name of a template and the bindings for it into the registers. -/
def target (template : Node) (bound : List (String × Node)) : Result (List Op) := do
  let name ← expression template
  let map ← bindings bound
  return name ++ [.push] ++ map ++ [.moveToSecond, .pop]

/-- Code for the branches after a condition. Only a second branch needs a jump over it. -/
def branches (condition positive negative : List Op) (single : Bool) : List Op :=
  if single then condition ++ [.jumpIfFalse (positive.length + 1)] ++ positive
  else
    condition ++ [.jumpIfFalse (positive.length + 2)] ++ positive ++
      [.goto (negative.length + 1)] ++ negative

def forLoop (source body : List Op) (slot max : Nat) : List Op :=
  source ++ [.forStart slot, .forNext slot max (body.length + 2)] ++ body ++
    [.goto (-(body.length + 1 : Int))]

def whileLoop (condition body : List Op) (slot max : Nat) : List Op :=
  [.literal (.int 0), .saveLocal slot] ++ condition ++
    [.jumpIfFalse (body.length + 4), .loopGuard slot max, .jumpIfFalse (body.length + 2)] ++
    body ++ [.goto (-(condition.length + 3 + body.length : Int))]

mutual

/-- Code for a node inside a block. -/
def statement : Node → Result (List Op)
  | .text _ s => .ok [.literal (.text s), .printRaw]
  | .print _ operand => do
      return (← expression operand) ++ [.print]
  | .discard _ operand => expression operand
  | .conditional _ condition positive negative => do
      let test ← expression condition
      let first ← block positive
      let second ← block negative
      return branches test first second negative.isEmpty
  | .forLoop _ _ slot source body max => do
      let list ← expression source
      let code ← block body
      return forLoop list code slot max
  | .whileLoop _ condition body slot max => do
      let test ← expression condition
      let code ← block body
      return whileLoop test code slot max
  | .macroDef _ name _ _ => .error (.nestedMacro name)
  | .inclusion _ template bound => do
      return (← target template bound) ++ [.inclusion]
  | .wrapper _ template bound body => do
      let content ← block body
      let name ← target template bound
      return [.beginCapture] ++ content ++ [.endCapture, .push] ++ name ++ [.wrapper]
  | other => expression other

def block : List Node → Result (List Op)
  | [] => .ok []
  | first :: rest => do
      let code ← statement first
      return code ++ (← block rest)

end

/-- Code for the nodes of a template, and its macros added to those before; of two macros of one
name the later stays. -/
def topLevel (macros : Dictionary MacroCode) :
    List Node → Result (List Op × Dictionary MacroCode)
  | [] => .ok ([], macros)
  | .macroDef _ name parameters body :: rest => do
      let code ← block body
      topLevel (macros.insert name ⟨parameters, code ++ [.halt]⟩) rest
  | first :: rest => do
      let code ← statement first
      let (more, macros) ← topLevel macros rest
      return (code ++ more, macros)

end Stencil.Generate

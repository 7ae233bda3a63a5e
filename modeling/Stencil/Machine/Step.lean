import Stencil.Code.Check
import Stencil.Machine.State

/-!
# Steps of the machine

Most instructions change the registers, the stacks, the slots or the output and go on with the next
one. The others jump, start an activation or end it.
-/

namespace Stencil.Machine

variable {σ : Type}

/-! ## Instructions that go on -/

/-- Puts the result of an operation of the two registers into the accumulator. -/
def combine (state : State σ) (operation : Value → Value → Value) : State σ :=
  state.yield (operation state.second state.accumulator)

def combineOrFail (state : State σ) (operation : Value → Value → Answer) :
    Except Fault (State σ) := do
  return state.yield (← operation state.second state.accumulator)

/-- Whether the registers compare in one of the given ways. -/
def compareBy (state : State σ) (accepts : Ordering → Bool) : State σ :=
  combine state fun left right => .bool ((left.compare right).any accepts)

def concatenate (left right : Value) : Value :=
  .text (left.display ++ right.display)

/-- A text becomes raw as it is, other values by their text; nil stays. -/
def markRaw : Value → Value
  | .nil => .nil
  | .text s => .raw s
  | other => .raw other.display

/-- Prints the accumulator: raw text as it is, other text escaped, nil not at all. -/
def printAccumulator (state : State σ) : State σ :=
  match state.accumulator with
  | .nil => state.warn (.nilPrinted state.current.code.name)
  | .raw s => state.write s
  | other => state.write (Text.Html.escape other.display)

/-- Pairs keys with values; a key without a value gets nil. -/
def pairUp : List Value → List (String × Value)
  | [] => []
  | [key] => [(key.display, .nil)]
  | key :: value :: rest => (key.display, value) :: pairUp rest

/-- The integers from `first` to `last`. -/
def integersFrom (first last : Int) : List Value :=
  (List.range (last - first + 1).toNat).map fun (step : Nat) =>
    .int (Int64.ofInt (first + step))

def range (limits : Limits) (first last : Int) : Answer :=
  let size := (last - first + 1).toNat
  if limits.maxRange < size then .error (.rangeTooLong first last size limits.maxRange)
  else .ok (.list (integersFrom first last))

/-- The index kept for a loop, zero if it is negative. -/
def loopIndex (state : State σ) (slot : Nat) : Nat :=
  (state.load (slot + 1)).toInteger.toNat

/-- Makes a new object for the state of a loop. -/
def makeLoop (state : State σ) (slot : Nat) : State σ :=
  let object := Object.loopAt (loopIndex state slot) (state.items (slot + 2))
  { state with made := state.made + 1 }.yield (.object (.made state.made) object)

/-- Starts a loop before its first element; what is no list has no elements. -/
def startLoop (state : State σ) (slot : Nat) : State σ :=
  let items := match state.accumulator with
    | .list items => items
    | _ => []
  let state := { state with accumulator := .nil }
  (((state.save slot .nil).save (slot + 1) (.int (-1))).save (slot + 2) (.list items)).advance

/-- Counts an iteration of a conditional loop. The count wraps around. -/
def guardLoop (state : State σ) (slot max : Nat) : State σ :=
  let count := Int64.ofInt (state.load slot).toInteger + 1
  let within : Bool := 0 ≤ count.toInt && count.toInt ≤ max
  let counted := state.save slot (.int count)
  let told := if within then counted
    else counted.warn (.whileStopped state.current.code.name max)
  told.yield (.bool within)

/-- The value of a literal. -/
def ofLiteral : Literal → Value
  | .nil => .nil
  | .bool b => .bool b
  | .int n => .int n
  | .uint n => .uint n
  | .float bits => .float (Float.ofBits bits)
  | .text s => .text s

/-- The instructions that change the state and go on; `none` for the others. -/
def change? (environment : Environment σ) : Op → Option (State σ → State σ)
  | .noop => some State.advance
  | .loadNil => some (·.yield .nil)
  | .literal value => some (·.yield (ofLiteral value))
  | .moveToSecond => some fun state => { state with second := state.accumulator }.yield .nil
  | .moveFromSecond => some fun state => { state with second := .nil }.yield state.second
  | .push => some fun state =>
      { state with operands := state.accumulator :: state.operands }.yield .nil
  | .pushMark => some fun state =>
      { state with marks := state.operands.length :: state.marks }.advance
  | .fetchSymbol name => some fun state => state.yield (state.lookup environment.«variables» name)
  | .fetchElement => some fun state =>
      state.yield (environment.library.fetchElement state.accumulator state.second)
  | .loadLocal slot => some fun state => state.yield (state.load slot)
  | .saveLocal slot => some fun state => (state.save slot state.accumulator).advance
  | .loopState slot => some (makeLoop · slot)
  | .markRaw => some fun state => state.yield (markRaw state.accumulator)
  | .print => some fun state => (printAccumulator state).advance
  | .printRaw => some fun state => (state.write state.accumulator.display).advance
  | .printText text => some fun state => (state.write text).advance
  | .add => some (combine · Value.add)
  | .sub => some (combine · Value.sub)
  | .mul => some (combine · Value.mul)
  | .concat => some (combine · concatenate)
  | .neg => some fun state => state.yield state.accumulator.neg
  | .eq => some (combine · fun left right => .bool (left.looseEq right))
  | .ne => some (combine · fun left right => .bool (!left.looseEq right))
  | .lt => some (compareBy · Ordering.isLT)
  | .gt => some (compareBy · Ordering.isGT)
  | .le => some (compareBy · Ordering.isLE)
  | .ge => some (compareBy · Ordering.isGE)
  | .not => some fun state => state.yield (.bool !state.accumulator.isTruthy)
  | .escapeHtml => some fun state => state.yield state.accumulator.escapeHtml
  | .escapeUri => some fun state => state.yield state.accumulator.escapeUri
  | .forStart slot => some (startLoop · slot)
  | .loopGuard slot max => some (guardLoop · slot max)
  | .beginCapture => some fun state => { state with captures := "" :: state.captures }.advance
  | _ => none

/-! ## Instructions that go on unless they fail -/

/-- Collects the operands above the mark. -/
def collect (state : State σ) (make : List Value → Answer) : Except Fault (State σ) := do
  let (items, state) ← state.popMarked
  return state.yield (← make items)

/-- Calls a method on the first of some values, with the others as arguments. -/
def invoke (library : Library) (name : String) : List Value → Answer
  | [] => .error (.underflow "method invocant")
  | value :: arguments => library.callMethod value name arguments

/-- Ends the innermost capture. -/
def endCapture (state : State σ) : Except Fault (State σ) :=
  match state.captures with
  | [] => .error (.underflow "capture stack")
  | capture :: rest => .ok ({ state with captures := rest }.yield (.raw capture))

/-- The instructions that change the state and go on, or fail; `none` for the others. -/
def attempt? (environment : Environment σ) : Op → Option (State σ → Except Fault (State σ))
  | .popToSecond => some fun state => do
      let (value, state) ← state.pop
      return { state with second := value }.advance
  | .pop => some fun state => do
      let (value, state) ← state.pop
      return state.yield value
  | .fetchField name => some fun state => do
      return state.yield (← environment.library.fetchField state.accumulator name)
  | .div => some (combineOrFail · Value.div)
  | .mod => some (combineOrFail · Value.rem)
  | .range => some (combineOrFail · fun first last =>
      range environment.limits first.toInteger last.toInteger)
  | .makeList => some (collect · fun items => .ok (.list items))
  | .makeMap => some (collect · fun items => .ok (.map (Dictionary.ofList (pairUp items))))
  | .callFunction name => some (collect · (environment.library.call name))
  | .callMethod name => some (collect · (invoke environment.library name))
  | .filter name => some fun state => do
      return state.yield (← environment.library.call name [state.accumulator])
  | .endCapture => some endCapture
  | _ => none

/-! ## Jumps, calls and returns -/

/-- Goes on where a jump leads. -/
def jump (state : State σ) (offset : Int) : Outcome σ :=
  match jumpTarget? state.current.ip offset with
  | some target =>
      if target < state.current.ops.size then
        .running { state with current := { state.current with ip := target } }
      else fail state (.jumpLeavesCode state.current.ip offset)
  | none => fail state (.jumpLeavesCode state.current.ip offset)

def jumpIf (state : State σ) (condition : Bool) (offset : Int) : Outcome σ :=
  if condition then jump state offset else .running state.advance

/-- Moves on to the next element of a list while there is one and the count allows it. The index
wraps around. -/
def nextElement (state : State σ) (slot max : Nat) (exit : Int) : Outcome σ :=
  let index := Int64.ofInt (state.load (slot + 1)).toInteger + 1
  match (state.items (slot + 2))[index.toInt.toNat]? with
  | some item =>
      if max ≤ index.toInt.toNat then
        jump (state.warn (.forStopped state.current.code.name max)) exit
      else .running ((state.save slot item).save (slot + 1) (.int index)).advance
  | none => jump state exit

/-- Counts a call and begins it, unless calls are nested as deep as they may. The caller goes on
after its instruction later. -/
def enter (environment : Environment σ) (state : State σ) (name : String) (callee : Activation)
    (arguments : List Value) : Outcome σ :=
  let counted := { state with depth := state.depth + 1 }
  if environment.limits.maxDepth < counted.depth then
    fail counted (.callTooDeep environment.limits.maxDepth name)
  else .running (counted.call callee arguments)

/-- Calls a macro, whose output is captured. -/
def callMacro (environment : Environment σ) (state : State σ) (name : String) : Outcome σ :=
  match state.popMarked with
  | .error fault => fail state fault
  | .ok (arguments, popped) =>
      let code := state.current.code
      match Dictionary.find? code.macros name with
      | none => fail state (.undefinedMacro name)
      | some body =>
          if body.parameters.length ≠ arguments.length then
            fail state (.arity "macro" name body.parameters.length arguments.length)
          else
            enter environment popped s!"macro '{name}'"
              ⟨.callMacro name, code, body.ops.toArray, 0, 0, none⟩ arguments

/-- Runs another template with bindings. -/
def runTemplate (environment : Environment σ) (state : State σ) (name : String)
    (bindings : Option (Dictionary Value)) : Outcome σ :=
  match environment.loader with
  | none => fail state (.noLoader name)
  | some load =>
      match load name state.store with
      | (.error failure, store) => raise failure { state with store }
      | (.ok code, store) =>
          enter environment { state with store } s!"include '{name}'"
            ⟨.inclusion name, code, code.ops.toArray, 0, 0, bindings⟩ []

/-- The bindings that a value stands for. -/
def bindingsOf : Value → Option (Dictionary Value)
  | .map entries => some entries
  | _ => none

/-- Passes the content from the operand stack on among the bindings. -/
def wrap (environment : Environment σ) (state : State σ) : Outcome σ :=
  match state.pop with
  | .error fault => fail state fault
  | .ok (content, popped) =>
      let bindings := (bindingsOf state.second).getD []
      runTemplate environment { popped with second := .nil } state.accumulator.display
        (some (bindings.insert "content" content))

/-- Goes back to the caller. A macro yields what it printed as raw text, a template nothing. -/
def leave (state : State σ) : Outcome σ :=
  match state.callers with
  | [] => .finished state
  | caller :: callers =>
      let value : Value :=
        if state.current.origin.isMacro then .raw (state.captures.headD "") else .nil
      .running ((state.giveBack caller callers).yield value)

/-- The instructions that jump, call or return. -/
def transfer (environment : Environment σ) (state : State σ) : Op → Outcome σ
  | .halt => leave state
  | .and offset => jumpIf state (!state.accumulator.isTruthy) offset
  | .or offset => jumpIf state state.accumulator.isTruthy offset
  | .goto offset => jump state offset
  | .jumpIfFalse offset => jumpIf state (!state.accumulator.isTruthy) offset
  | .forNext slot max exit => nextElement state slot max exit
  | .callMacro name => callMacro environment state name
  | .inclusion =>
      runTemplate environment { state with second := .nil } state.accumulator.display
        (bindingsOf state.second)
  | .wrapper => wrap environment state
  | _ => .running state.advance

/-- One instruction. -/
def step (environment : Environment σ) (state : State σ) : Outcome σ :=
  match state.current.ops[state.current.ip]? with
  | none => fail state (.outOfCode state.current.ip)
  | some op =>
      match change? environment op with
      | some change => .running (change state)
      | none =>
          match attempt? environment op with
          | some attempt =>
              match attempt state with
              | .ok next => .running next
              | .error fault => fail state fault
          | none => transfer environment state op

end Stencil.Machine

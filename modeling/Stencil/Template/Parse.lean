import Stencil.Template.Grammar
import Stencil.Template.Scope

/-!
# Parsing

Tokens become a template by descent through the grammar; variables are resolved to slots on the
way. Every function of the descent has an allowance that bounds how deep it goes. The allowance
that `parse` gives grows with the count of tokens and is never used up.
-/

namespace Stencil.Template

open Token (Kind)

structure Settings where
  template : String
  closing : String
  maxIterations : Nat

structure State where
  stream : Token.Stream
  frame : Frame
  /-- The macros declared so far. -/
  macros : List String

abbrev Parse := ReaderT Settings (StateT State (Except ParseError))

/-! ## Tokens -/

def fault {α : Type} (token : Token) (fault : GrammarFault) : Parse α := do
  throw (.grammar ⟨(← read).template, token, fault⟩)

def unexpected {α : Type} (token : Token) (what : String) : Parse α :=
  fault token (.expected what)

/-- Passes a token on unless it is an error of the scanner. -/
def checked (token : Token) : Parse Token := do
  if token.kind = .error then throw (.scan (.ofToken (← read).template token))
  else return token

def nextToken : Parse Token := do
  let state ← get
  let (token, stream) := state.stream.next
  set { state with stream }
  checked token

def peekToken : Parse Token := do
  let state ← get
  let (token, stream) := state.stream.peek
  set { state with stream }
  checked token

def peekKind : Parse Kind := do
  return (← peekToken).kind

def putBack (token : Token) : Parse Unit :=
  modify fun state => { state with stream := state.stream.backup token }

/-- Takes the next token if it is of a kind. -/
def accept (kind : Kind) : Parse Bool := do
  if (← peekKind) = kind then
    let _ ← nextToken
    return true
  else return false

def expect (kind : Kind) (what : String) : Parse Token := do
  let token ← nextToken
  if token.kind = kind then return token else unexpected token what

def expectClosing : Parse Unit := do
  let closing := (← read).closing
  let _ ← expect .tagEnd s!"tag end '{closing}'"

def expectName (what : String) : Parse String := do
  return (← expect .ident what).value

def tooDeep {α : Type} : Parse α := do
  fault (← peekToken) .tooDeep

/-! ## Variables -/

/-- Changes the frame, and yields the slot that goes with it. -/
def withFrame (change : Frame → Nat × Frame) : Parse Nat := do
  let state ← get
  let (slot, frame) := change state.frame
  set { state with frame }
  return slot

def setFrame (frame : Frame) : Parse Unit :=
  modify fun state => { state with frame }

/-- What a name stands for: a variable of the template, the state of the loop around, or a variable
of the surroundings. -/
def Frame.resolve (frame : Frame) (place : Place) (name : String) : Node :=
  match frame.lookup? name with
  | some slot => .localVar place name slot
  | none =>
      match name, frame.loops with
      | "loop", slot :: _ => .loopVar place slot
      | _, _ => .symbol place name

/-! ## Numbers -/

/-- The value of hexadecimal digits. -/
def hexValue (digits : List Char) : Nat :=
  Decimal.valueFrom 16 0 (digits.map fun c => (Text.hexValue? c).getD 0)

/-- The literal that a number token denotes. -/
def literal (place : Place) (source : String) : Except GrammarFault Node :=
  let text := source.toList
  let (negative, digits) := Decimal.takeSign text
  let hex (rest : List Char) : Except GrammarFault Node :=
    let n := hexValue rest
    if n < 0x8000000000000000 then .ok (.int place (Int64.ofInt (Decimal.signed negative n)))
    else .error (.hexOutOfRange source)
  match digits with
  | '0' :: 'x' :: rest => hex rest
  | '0' :: 'X' :: rest => hex rest
  | _ =>
      if digits.any fun c => c == '.' || c == 'e' || c == 'E' then
        match Decimal.readFloat? text with
        | some x => .ok (.float place x)
        | none => .error (.badFloat source)
      else
        match Decimal.readInt64? text with
        | some n => .ok (.int place n)
        | none =>
            match if negative then none else Decimal.readUInt64? digits with
            | some n => .ok (.uint place n)
            | none => .error (.integerOutOfRange source)

def numeral (token : Token) : Parse Node :=
  match literal token.place token.value with
  | .ok node => return node
  | .error problem => fault token problem

/-! ## Expressions -/

mutual

def expression : Nat → Parse Node
  | 0 => tooDeep
  | allowance + 1 => do
      let operand ← binary allowance 0
      filters allowance operand

/-- The filters after an operand. -/
def filters : Nat → Node → Parse Node
  | 0, _ => tooDeep
  | allowance + 1, operand => do
      if (← peekKind) = .pipe then
        let pipe ← nextToken
        let name ← expectName "filter name"
        filters allowance (.filter pipe.place operand name)
      else return operand

/-- Operands joined by the operators of a level and of all tighter ones. -/
def binary : Nat → Nat → Parse Node
  | 0, _ => tooDeep
  | allowance + 1, level => do
      if level < levels then
        let left ← binary allowance (level + 1)
        operators allowance level left
      else unary allowance

/-- The operators of a level after a left operand, joined from left to right. -/
def operators : Nat → Nat → Node → Parse Node
  | 0, _, _ => tooDeep
  | allowance + 1, level, left => do
      match operatorAt? level (← peekKind) with
      | some op =>
          let token ← nextToken
          let right ← binary allowance (level + 1)
          operators allowance level (.binary token.place op left right)
      | none => return left

/-- A plus sign before an operand is passed over. -/
def unary : Nat → Parse Node
  | 0 => tooDeep
  | allowance + 1 => do
      match ← peekKind with
      | .not =>
          let token ← nextToken
          let operand ← unary allowance
          return .unary token.place .not operand
      | .minus =>
          let token ← nextToken
          let operand ← unary allowance
          return .unary token.place .neg operand
      | .plus =>
          let _ ← nextToken
          unary allowance
      | _ =>
          let operand ← primary allowance
          suffixes allowance operand

/-- Fields, methods and indexes after an operand. -/
def suffixes : Nat → Node → Parse Node
  | 0, _ => tooDeep
  | allowance + 1, operand => do
      match ← peekKind with
      | .dot =>
          let dot ← nextToken
          if (← peekKind) = .number then
            let position ← numeral (← nextToken)
            suffixes allowance (.index dot.place operand position)
          else
            let name ← expectName "field name"
            if ← accept .leftParen then
              let arguments ← arguments allowance
              suffixes allowance (.methodCall dot.place operand name arguments)
            else suffixes allowance (.field dot.place operand name)
      | .leftBracket =>
          let bracket ← nextToken
          let position ← expression allowance
          let _ ← expect .rightBracket "']'"
          suffixes allowance (.index bracket.place operand position)
      | _ => return operand

/-- Arguments after an opening parenthesis. -/
def arguments : Nat → Parse (List Node)
  | 0 => tooDeep
  | allowance + 1 => do
      if ← accept .rightParen then return [] else moreArguments allowance

def moreArguments : Nat → Parse (List Node)
  | 0 => tooDeep
  | allowance + 1 => do
      let first ← expression allowance
      let token ← nextToken
      match token.kind with
      | .comma => return first :: (← moreArguments allowance)
      | .rightParen => return [first]
      | _ => unexpected token "',' or ')'"

def primary : Nat → Parse Node
  | 0 => tooDeep
  | allowance + 1 => do
      let token ← nextToken
      let place := token.place
      match token.kind with
      | .number => numeral token
      | .string => return .string place token.value
      | .true => return .bool place true
      | .false => return .bool place false
      | .nil => return .nil place
      | .leftParen =>
          let inner ← expression allowance
          let _ ← expect .rightParen "')'"
          return inner
      | .leftBracket => listLiteral allowance place
      | .ident =>
          let name := token.value
          if ← accept .leftParen then
            let arguments ← arguments allowance
            if (← get).macros.contains name then return .macroCall place name arguments
            else return .functionCall place name arguments
          else return (← get).frame.resolve place name
      | _ => unexpected token "expression"

/-- A list or a range after its opening bracket. -/
def listLiteral : Nat → Place → Parse Node
  | 0, _ => tooDeep
  | allowance + 1, place => do
      if ← accept .rightBracket then return .list place []
      else
        let first ← expression allowance
        if ← accept .range then
          let last ← expression allowance
          let _ ← expect .rightBracket "']'"
          return .range place first last
        else return .list place (first :: (← moreItems allowance))

/-- The items of a list after one of them; a comma may stand before the closing bracket. -/
def moreItems : Nat → Parse (List Node)
  | 0 => tooDeep
  | allowance + 1 => do
      let token ← nextToken
      match token.kind with
      | .rightBracket => return []
      | .comma =>
          if ← accept .rightBracket then return []
          else
            let item ← expression allowance
            return item :: (← moreItems allowance)
      | _ => unexpected token "',' or ']'"

end

/-- The name that an assignment to a node sets. -/
def assignedName? : Node → Option String
  | .localVar _ name _ => some name
  | .symbol _ name => some name
  | _ => none

/-- An expression or an assignment. -/
def statement (allowance : Nat) : Parse Node := do
  let target ← expression allowance
  match assignment? (← peekKind) with
  | none => return target
  | some assignment =>
      let token ← nextToken
      match assignedName? target with
      | none => fault token (.notAssignable target.kindName)
      | some name =>
          let operand ← expression allowance
          let value := match assignment with
            | .plain => operand
            | .combined op => .binary token.place op target operand
          let slot ← withFrame (·.assignable name)
          return .assign target.place name slot value

/-! ## Directives -/

/-- How a block ends, with the token that ends it. -/
inductive Ending where
  | ofInput (token : Token)
  | ofBlock (token : Token)
  | otherwise (token : Token)
  | otherwiseIf (token : Token) (condition : Node)

def Ending.token : Ending → Token
  | ofInput token | ofBlock token | otherwise token | otherwiseIf token _ => token

def requireEnd : Ending → Parse Unit
  | .ofBlock _ => return
  | ending => unexpected ending.token "END"

inductive Directive where
  | node (node : Node)
  | empty
  | close (ending : Ending)

/-- A `SET` after its keyword. -/
def setDirective (allowance : Nat) (place : Place) : Parse Node := do
  let name ← expectName "variable name after SET"
  let _ ← expect .assign "'='"
  let value ← expression allowance
  expectClosing
  let slot ← withFrame (·.settable name)
  return .discard place (.assign place name slot value)

/-- The bindings after `WITH`. -/
def bindings : Nat → Parse (List (String × Node))
  | 0 => tooDeep
  | allowance + 1 => do
      let name ← expectName "binding name"
      let _ ← expect .assign "'='"
      let value ← expression allowance
      if ← accept .comma then return (name, value) :: (← bindings allowance)
      else return [(name, value)]

/-- A template and the bindings for it, up to the closing. -/
def target (allowance : Nat) : Parse (Node × List (String × Node)) := do
  let template ← expression allowance
  let bound ← if ← accept .withWord then bindings allowance else pure []
  expectClosing
  return (template, bound)

/-- The names of parameters after the opening parenthesis. -/
def moreParameters : Nat → Parse (List String)
  | 0 => tooDeep
  | allowance + 1 => do
      let name ← expectName "parameter name"
      let token ← nextToken
      match token.kind with
      | .comma => return name :: (← moreParameters allowance)
      | .rightParen => return [name]
      | _ => unexpected token "',' or ')'"

def parameters (allowance : Nat) : Parse (List String) := do
  if ← accept .leftParen then
    if ← accept .rightParen then return [] else moreParameters allowance
  else return []

/-- A macro can be called from its declaration on, also in its own body. -/
def declareMacro (name : String) : Parse Unit :=
  modify fun state =>
    if state.macros.contains name then state else { state with macros := name :: state.macros }

mutual

/-- The nodes up to the end of a block or of the input. -/
def block : Nat → Parse (List Node × Ending)
  | 0 => tooDeep
  | allowance + 1 => do
      let token ← nextToken
      match token.kind with
      | .rawText =>
          let (nodes, ending) ← block allowance
          return (.text token.place token.value :: nodes, ending)
      | .tagStart =>
          match ← directive allowance with
          | .node node =>
              let (nodes, ending) ← block allowance
              return (node :: nodes, ending)
          | .empty => block allowance
          | .close ending => return ([], ending)
      | .eof => return ([], .ofInput token)
      | _ => unexpected token "text or tag start"

/-- A block that must end with `END`. -/
def body : Nat → Parse (List Node)
  | 0 => tooDeep
  | allowance + 1 => do
      let (nodes, ending) ← block allowance
      requireEnd ending
      return nodes

/-- What stands in a tag. -/
def directive : Nat → Parse Directive
  | 0 => tooDeep
  | allowance + 1 => do
      let token ← nextToken
      let place := token.place
      match token.kind with
      | .tagEnd => return .empty
      | .getWord =>
          let value ← expression allowance
          expectClosing
          return .node (.print place value)
      | .setWord => return .node (← setDirective allowance place)
      | .callWord =>
          let value ← statement allowance
          expectClosing
          return .node (.discard place value)
      | .ifWord =>
          let condition ← expression allowance
          expectClosing
          return .node (← branches allowance place condition)
      | .unlessWord =>
          let condition ← expression allowance
          expectClosing
          return .node (← branches allowance place (.unary place .not condition))
      | .elsifWord =>
          let condition ← expression allowance
          expectClosing
          return .close (.otherwiseIf token condition)
      | .elseWord =>
          expectClosing
          return .close (.otherwise token)
      | .endWord =>
          expectClosing
          return .close (.ofBlock token)
      | .foreachWord => return .node (← forDirective allowance place)
      | .whileWord => return .node (← whileDirective allowance place)
      | .macroWord => return .node (← macroDirective allowance place)
      | .includeWord =>
          let (template, bound) ← target allowance
          return .node (.inclusion place template bound)
      | .wrapperWord =>
          let (template, bound) ← target allowance
          return .node (.wrapper place template bound (← body allowance))
      | _ =>
          putBack token
          let value ← statement allowance
          expectClosing
          match value with
          | .assign .. => return .node (.discard place value)
          | _ => return .node (.print place value)

/-- The branches of a conditional after its condition. A further condition is a conditional of its
own in the other branch. -/
def branches : Nat → Place → Node → Parse Node
  | 0, _, _ => tooDeep
  | allowance + 1, place, condition => do
      let (positive, ending) ← block allowance
      match ending with
      | .ofBlock _ => return .conditional place condition positive []
      | .otherwise _ => return .conditional place condition positive (← body allowance)
      | .otherwiseIf token next =>
          let negative ← branches allowance token.place next
          return .conditional place condition positive [negative]
      | .ofInput token => unexpected token "END"

/-- The list is evaluated outside the scope of the loop. -/
def forDirective : Nat → Place → Parse Node
  | 0, _ => tooDeep
  | allowance + 1, place => do
      let element ← expectName "loop variable name"
      let token ← nextToken
      if token.kind = .inWord ∨ token.kind = .assign then
        let source ← expression allowance
        expectClosing
        let slot ← withFrame (·.enterFor element)
        let nodes ← body allowance
        modify fun state => { state with frame := state.frame.leaveFor }
        return .forLoop place element slot source nodes (← read).maxIterations
      else unexpected token "IN"

def whileDirective : Nat → Place → Parse Node
  | 0, _ => tooDeep
  | allowance + 1, place => do
      let condition ← expression allowance
      expectClosing
      let slot ← withFrame Frame.enterWhile
      let nodes ← body allowance
      modify fun state => { state with frame := state.frame.leaveScope }
      return .whileLoop place condition nodes slot (← read).maxIterations

/-- The body of a macro has a frame of its own. -/
def macroDirective : Nat → Place → Parse Node
  | 0, _ => tooDeep
  | allowance + 1, place => do
      let name ← expectName "macro name"
      let names ← parameters allowance
      let _ ← expect .blockWord "BLOCK"
      expectClosing
      declareMacro name
      let outer := (← get).frame
      setFrame (.ofParameters names)
      let nodes ← body allowance
      setFrame outer
      return .macroDef place name names nodes

end

/-- A whole template. -/
def template (allowance : Nat) : Parse Template := do
  let (nodes, ending) ← block allowance
  match ending with
  | .ofInput _ => return ⟨(← read).template, nodes⟩
  | other => fault other.token .strayEnd

/-- Every token opens at most ten levels of the descent. -/
def allowanceFor (tokens : List Token) : Nat :=
  16 * (tokens.length + 2)

def ofTokens (settings : Settings) (tokens : List Token) : Except ParseError Template := do
  let start : State := ⟨.ofTokens tokens, .empty, []⟩
  let (result, _) ← ((template (allowanceFor tokens)).run settings).run start
  return result

/-- Parses a text under a name. -/
def parse (dialect : Token.Dialect) (name source : String) : Except ParseError Template :=
  ofTokens ⟨name, dialect.closing, dialect.maxIterations⟩ (Token.scan dialect source)

end Stencil.Template

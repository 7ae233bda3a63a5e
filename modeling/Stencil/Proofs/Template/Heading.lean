import Stencil.Template.Parse

/-!
# Headings

What a tag says by itself is its heading. A directive is read in two steps: the heading, which takes
the tokens of the tag and leaves the variables as they are, and what the heading asks for, which may
be a block behind the tag.
-/

namespace Stencil.Template

open Token (Kind)

/-- An expression, or an assignment whose variable has no slot yet. -/
inductive Statement where
  | value (node : Node)
  | assignment (place : Place) (name : String) (value : Node)

inductive Heading where
  | empty
  | print (place : Place) (value : Node)
  | set (place : Place) (name : String) (value : Node)
  | call (place : Place) (statement : Statement)
  | plain (place : Place) (statement : Statement)
  | inclusion (place : Place) (template : Node) (bindings : List (String × Node))
  | conditional (place : Place) (condition : Node)
  | otherwiseIf (token : Token) (condition : Node)
  | otherwise (token : Token)
  | close (token : Token)
  | forLoop (place : Place) (element : String) (source : Node)
  | whileLoop (place : Place) (condition : Node)
  | macroDef (place : Place) (name : String) (parameters : List String)
  | wrapper (place : Place) (template : Node) (bindings : List (String × Node))

/-- What a tag does in a sequence of tags. -/
inductive Form where
  | empty | simple | conditional | otherwiseIf | otherwise | close | enclosing
deriving DecidableEq

/-- The form of a tag is told by its first token. -/
def Form.ofKind : Kind → Form
  | .tagEnd => empty
  | .ifWord | .unlessWord => conditional
  | .elsifWord => otherwiseIf
  | .elseWord => otherwise
  | .endWord => close
  | .foreachWord | .whileWord | .macroWord | .wrapperWord => enclosing
  | _ => simple

def Heading.form : Heading → Form
  | empty => .empty
  | print .. | set .. | call .. | plain .. | inclusion .. => .simple
  | conditional .. => .conditional
  | otherwiseIf .. => .otherwiseIf
  | otherwise _ => .otherwise
  | close _ => .close
  | forLoop .. | whileLoop .. | macroDef .. | wrapper .. => .enclosing

/-- The name that is assigned to. -/
def Statement.assigned? : Statement → Option String
  | value _ => none
  | assignment _ name _ => some name

def Heading.assigned? : Heading → Option String
  | call _ statement => statement.assigned?
  | plain _ statement => statement.assigned?
  | _ => none

def readStatement (allowance : Nat) : Parse Statement := do
  let target ← expression allowance
  match assignment? (← peekKind) with
  | none => return .value target
  | some assignment =>
      let token ← nextToken
      match assignedName? target with
      | none => fault token (.notAssignable target.kindName)
      | some name =>
          let operand ← expression allowance
          let value := match assignment with
            | .plain => operand
            | .combined op => .binary token.place op target operand
          return .assignment target.place name value

/-- Gives an assigned variable its slot. -/
def Statement.perform : Statement → Parse Node
  | value node => return node
  | assignment place name operand => do
      let slot ← withFrame (·.assignable name)
      return .assign place name slot operand

/-- The kinds of tokens that are no part of an expression where a tag begins with them. -/
def opensHeading : Kind → Bool
  | .tagEnd | .getWord | .setWord | .callWord | .ifWord | .unlessWord | .elsifWord | .elseWord
  | .endWord | .foreachWord | .whileWord | .macroWord | .includeWord | .wrapperWord => true
  | _ => false

theorem Form.ofKind_plain {kind : Kind} (plain : opensHeading kind = false) :
    ofKind kind = .simple := by
  cases kind <;> first | rfl | cases plain

def plainHeading (allowance : Nat) (place : Place) : Parse Heading := do
  let statement ← readStatement (allowance + 1)
  expectClosing
  return .plain place statement

/-- The rest of a tag, by its first token. -/
def headingOf (allowance : Nat) (token : Token) : Parse Heading := do
  let place := token.place
  match token.kind with
  | .tagEnd => return .empty
  | .getWord =>
      let value ← expression (allowance + 1)
      expectClosing
      return .print place value
  | .setWord =>
      let name ← expectName "variable name after SET"
      let _ ← expect .assign "'='"
      let value ← expression (allowance + 1)
      expectClosing
      return .set place name value
  | .callWord =>
      let statement ← readStatement (allowance + 1)
      expectClosing
      return .call place statement
  | .ifWord =>
      let condition ← expression (allowance + 1)
      expectClosing
      return .conditional place condition
  | .unlessWord =>
      let condition ← expression (allowance + 1)
      expectClosing
      return .conditional place (.unary place .not condition)
  | .elsifWord =>
      let condition ← expression (allowance + 1)
      expectClosing
      return .otherwiseIf token condition
  | .elseWord =>
      expectClosing
      return .otherwise token
  | .endWord =>
      expectClosing
      return .close token
  | .foreachWord =>
      let element ← expectName "loop variable name"
      let token ← nextToken
      if token.kind = .inWord ∨ token.kind = .assign then
        let source ← expression allowance
        expectClosing
        return .forLoop place element source
      else unexpected token "IN"
  | .whileWord =>
      let condition ← expression allowance
      expectClosing
      return .whileLoop place condition
  | .macroWord =>
      let name ← expectName "macro name"
      let names ← parameters allowance
      let _ ← expect .blockWord "BLOCK"
      expectClosing
      return .macroDef place name names
  | .includeWord =>
      let (template, bound) ← target (allowance + 1)
      return .inclusion place template bound
  | .wrapperWord =>
      let (template, bound) ← target (allowance + 1)
      return .wrapper place template bound
  | _ =>
      putBack token
      plainHeading allowance place

/-- The tokens of a tag up to its closing. -/
def heading (allowance : Nat) : Parse Heading := do
  headingOf allowance (← nextToken)

theorem headingOf_plain {token : Token} (plain : opensHeading token.kind = false)
    (allowance : Nat) :
    headingOf allowance token =
      (putBack token >>= fun _ => plainHeading allowance token.place) := by
  unfold headingOf
  cases found : token.kind <;>
    first
    | rfl
    | rw [found] at plain
      cases plain

/-- What a heading asks for behind its tag. -/
def Heading.complete (allowance : Nat) : Heading → Parse Directive
  | empty => return .empty
  | print place value => return .node (.print place value)
  | set place name value => do
      let slot ← withFrame (·.settable name)
      return .node (.discard place (.assign place name slot value))
  | call place statement => do
      let value ← statement.perform
      return .node (.discard place value)
  | plain place statement => do
      let value ← statement.perform
      match value with
      | .assign .. => return .node (.discard place value)
      | _ => return .node (.print place value)
  | inclusion place template bound => return .node (.inclusion place template bound)
  | conditional place condition => return .node (← branches (allowance + 1) place condition)
  | otherwiseIf token condition => return .close (.otherwiseIf token condition)
  | otherwise token => return .close (.otherwise token)
  | close token => return .close (.ofBlock token)
  | forLoop place element source => do
      let slot ← withFrame (·.enterFor element)
      let nodes ← body allowance
      modify fun state => { state with frame := state.frame.leaveFor }
      return .node (.forLoop place element slot source nodes (← read).maxIterations)
  | whileLoop place condition => do
      let slot ← withFrame Frame.enterWhile
      let nodes ← body allowance
      modify fun state => { state with frame := state.frame.leaveScope }
      return .node (.whileLoop place condition nodes slot (← read).maxIterations)
  | macroDef place name names => do
      declareMacro name
      let outer := (← get).frame
      setFrame (.ofParameters names)
      let nodes ← body allowance
      setFrame outer
      return .node (.macroDef place name names nodes)
  | wrapper place template bound => do
      return .node (.wrapper place template bound (← body (allowance + 1)))

theorem statement_eq (allowance : Nat) :
    statement allowance = readStatement allowance >>= Statement.perform := by
  unfold statement readStatement
  simp only [bind_assoc]
  refine bind_congr fun target => bind_congr fun kind => ?_
  cases assignment? kind with
  | none => rfl
  | some assignment =>
      simp only [bind_assoc]
      refine bind_congr fun token => ?_
      cases assignedName? target with
      | none => rfl
      | some name =>
          cases assignment <;> simp only [bind_assoc, pure_bind, Statement.perform]

/-- A parse that depends on the tokens only, and leaves the variables as they are. -/
def Blind {α : Type} (parse : Parse α) : Prop :=
  ∀ settings state, parse settings state =
    (parse settings ⟨state.stream, .empty, []⟩).map fun (value, stop) =>
      (value, { state with stream := stop.stream })

namespace Blind

variable {α β : Type}

theorem pure (value : α) : Blind (Pure.pure value : Parse α) :=
  fun _ _ => rfl

theorem fault (token : Token) (problem : GrammarFault) : Blind (fault token problem : Parse α) :=
  fun _ _ => rfl

theorem bind {first : Parse α} {next : α → Parse β} (begun : Blind first)
    (continued : ∀ value, Blind (next value)) : Blind (first >>= next) := by
  intro settings state
  show (first settings state >>= fun (value, stop) => next value settings stop) =
    (first settings ⟨state.stream, .empty, []⟩ >>= fun (value, stop) => next value settings stop).map _
  rw [begun settings state]
  cases first settings ⟨state.stream, .empty, []⟩ with
  | error problem => rfl
  | ok result =>
      obtain ⟨value, stop⟩ := result
      show next value settings { state with stream := stop.stream } = (next value settings stop).map _
      rw [continued value settings { state with stream := stop.stream },
        continued value settings stop]
      cases next value settings ⟨stop.stream, .empty, []⟩ <;> rfl

theorem checked (token : Token) : Blind (checked token) := by
  unfold Template.checked
  split
  · exact fun _ _ => rfl
  · exact pure token

theorem nextToken : Blind nextToken := by
  intro settings state
  exact checked state.stream.next.1 settings { state with stream := state.stream.next.2 }

theorem expectClosing : Blind expectClosing := by
  refine bind (fun _ _ => rfl) fun settings => bind (bind nextToken fun token => ?_) fun _ => pure ()
  split
  · exact pure token
  · exact fault token _

end Blind

theorem withFrame_expectClosing {β : Type} (change : Frame → Nat × Frame) (next : Nat → Parse β) :
    (do
      let slot ← withFrame change
      expectClosing
      next slot) =
    (do
      expectClosing
      let slot ← withFrame change
      next slot) := by
  funext settings state
  show (expectClosing settings { state with frame := (change state.frame).2 } >>= _) =
    (expectClosing settings state >>= _)
  rw [Blind.expectClosing settings { state with frame := (change state.frame).2 },
    Blind.expectClosing settings state]
  cases expectClosing settings ⟨state.stream, .empty, []⟩ <;> rfl

theorem perform_expectClosing {β : Type} (statement : Statement) (next : Node → Parse β) :
    (do
      let value ← statement.perform
      expectClosing
      next value) =
    (do
      expectClosing
      let value ← statement.perform
      next value) := by
  cases statement with
  | value node => simp only [Statement.perform, pure_bind]
  | assignment place name operand =>
      simp only [Statement.perform, bind_assoc, pure_bind, withFrame_expectClosing]

theorem directive_eq (allowance : Nat) :
    directive (allowance + 2) = heading allowance >>= Heading.complete allowance := by
  unfold directive heading headingOf plainHeading
  simp only [bind_assoc]
  refine bind_congr fun token => ?_
  generalize token.kind = kind
  cases kind with
  | foreachWord =>
      simp only [bind_assoc, forDirective]
      refine bind_congr fun element => bind_congr fun separator => ?_
      split
      · simp only [bind_assoc, pure_bind, Heading.complete]
      · rfl
  | tagEnd | getWord | setWord | callWord | ifWord | unlessWord | elsifWord | elseWord | endWord
  | whileWord | macroWord | includeWord | wrapperWord =>
      simp only [bind_assoc, pure_bind, Heading.complete, statement_eq, perform_expectClosing,
        setDirective, whileDirective, macroDirective]
  | _ =>
      simp only [bind_assoc, pure_bind, Heading.complete, statement_eq]
      exact bind_congr fun _ => bind_congr fun statement => perform_expectClosing statement _

end Stencil.Template

import Stencil.Proofs.Machine.Failures
import Stencil.Proofs.Template.Walk

/-!
# The meaning of trees

Rendering a tree without compiling it. An expression has a value and a statement none; both act on
a world: the slots of the frame, the text written so far, the warnings, and whatever finds the
templates that are included. A loop that goes round more often than a given number of rounds has no
outcome.
-/

namespace Stencil.Meaning

open Machine (Limits Warning)

/-- Finds the tree of a template by its name. -/
abbrev Trees (σ : Type) := String → σ → Except Failure Template × σ

/-- What all templates of a rendering share. -/
structure Surroundings (σ : Type) where
  library : Library
  limits : Limits
  trees : Option (Trees σ)
  vars : Dictionary Value

/-- What rendering changes. -/
structure World (σ : Type) where
  /-- The slots of the frame; those beyond the end of the list are nil. -/
  slots : List Value
  /-- The text that went where text goes at present. -/
  written : String
  /-- How many objects have been made. -/
  made : Nat
  warnings : Array Warning
  store : σ

/-- An effect that ends with a value or a failure, unless a loop goes round too often. -/
def Action (σ α : Type) := World σ → Option (Except Failure α × World σ)

instance {σ : Type} : Monad (Action σ) where
  pure value := fun world => some (.ok value, world)
  bind first next := fun world =>
    match first world with
    | none => none
    | some (.error failure, after) => some (.error failure, after)
    | some (.ok value, after) => next value after

instance {σ : Type} : LawfulMonad (Action σ) :=
  LawfulMonad.mk' (Action σ)
    (fun action => by
      funext world
      show (match action world with
        | none => none
        | some (.error failure, after) => some (.error failure, after)
        | some (.ok value, after) => some (.ok value, after)) = action world
      obtain _ | ⟨_ | _, _⟩ := action world <;> rfl)
    (fun _ _ => rfl)
    (fun action first second => by
      funext world
      simp only [bind]
      obtain _ | ⟨_ | _, _⟩ := action world <;> rfl)

namespace Action

variable {σ α β : Type} {action : Action σ α} {further : α → Action σ β} {world after : World σ}

theorem bind_none (acted : action world = none) : (action >>= further) world = none := by
  simp only [bind, acted]

theorem bind_error {failure : Failure} (acted : action world = some (.error failure, after)) :
    (action >>= further) world = some (.error failure, after) := by
  simp only [bind, acted]

theorem bind_ok {value : α} (acted : action world = some (.ok value, after)) :
    (action >>= further) world = further value after := by
  simp only [bind, acted]

theorem of_bind_ok {value : β} (acted : (action >>= further) world = some (.ok value, after)) :
    ∃ first between, action world = some (.ok first, between) ∧
      further first between = some (.ok value, after) := by
  cases begun : action world with
  | none =>
      rw [bind_none begun] at acted
      cases acted
  | some outcome =>
      obtain ⟨_ | first, between⟩ := outcome
      · rw [bind_error begun] at acted
        cases acted
      · rw [bind_ok begun] at acted
        exact ⟨first, between, rfl, acted⟩

end Action

/-- A macro, by its tree. -/
structure Definition where
  parameters : List String
  body : List Node

/-- The last macro of a name among some nodes. -/
def definition? (name : String) : List Node → Option Definition
  | [] => none
  | .macroDef _ other parameters body :: rest =>
      (definition? name rest).or (if other = name then some ⟨parameters, body⟩ else none)
  | _ :: rest => definition? name rest

/-- A macro that is found is declared by one of the nodes. -/
theorem macroDef_mem_of_definition? {name : String} {nodes : List Node} {definition : Definition}
    (found : definition? name nodes = some definition) :
    ∃ place, .macroDef place name definition.parameters definition.body ∈ nodes := by
  fun_induction definition? name nodes with
  | case1 => cases found
  | case2 place other parameters body rest ih =>
      obtain found | ⟨_, found⟩ := Option.or_eq_some_iff.mp found
      · obtain ⟨spot, inside⟩ := ih found
        exact ⟨spot, .tail _ inside⟩
      · split at found
        · next same =>
            cases found
            exact ⟨place, same ▸ List.mem_cons_self⟩
        · cases found
  | case3 first rest other ih =>
      obtain ⟨spot, inside⟩ := ih found
      exact ⟨spot, .tail _ inside⟩

/-- The nodes of a macro stand among the nodes that declare it. -/
theorem mem_walkAll_of_definition? {name : String} {nodes : List Node}
    {definition : Definition} (found : definition? name nodes = some definition) :
    ∀ inner ∈ Node.walkAll definition.body, inner ∈ Node.walkAll nodes := by
  obtain ⟨place, declared⟩ := macroDef_mem_of_definition? found
  exact fun inner inside => Node.walk_subset_walkAll declared (.tail _ inside)

/-- Where a node is rendered. -/
structure Context where
  template : String
  definitions : String → Option Definition
  /-- The bindings passed along, the nearest first. -/
  bindings : List (Dictionary Value)
  /-- The calls under way, the innermost first. -/
  trace : List String

namespace Context

def ofTemplate (template : Template) : Context where
  template := template.name
  definitions name := definition? name template.nodes
  bindings := []
  trace := [template.name]

/-- The context of the body of a macro that is called. -/
def inMacro (context : Context) (name : String) : Context :=
  { context with trace := s!"macro '{name}'" :: context.trace }

/-- The context of a template that is included under a name. -/
def inTemplate (context : Context) (name : String) (template : Template)
    (bindings : Option (Dictionary Value)) : Context where
  template := template.name
  definitions name := definition? name template.nodes
  bindings := bindings.toList ++ context.bindings
  trace := name :: context.trace

/-- The value of a name: from the nearest bindings that have it, else from the variables. -/
def lookup (context : Context) (vars : Dictionary Value) (name : String) : Value :=
  ((context.bindings.findSome? fun entries => Dictionary.find? entries name).or
    (Dictionary.find? vars name)).getD .nil

end Context

/-! ## Single effects -/

namespace World

variable {σ : Type}

def load (world : World σ) (slot : Nat) : Value :=
  world.slots[slot]?.getD .nil

def save (world : World σ) (slot : Nat) (value : Value) : World σ :=
  { world with slots := Machine.setSlot world.slots slot value }

def write (world : World σ) (text : String) : World σ :=
  { world with written := world.written ++ text }

def warn (world : World σ) (warning : Warning) : World σ :=
  { world with warnings := world.warnings.push warning }

/-- Text is printed escaped unless it is raw, and nil not at all. -/
def print (context : Context) (value : Value) (world : World σ) : World σ :=
  match value with
  | .nil => world.warn (.nilPrinted context.template)
  | .raw s => world.write s
  | other => world.write (Text.Html.escape other.display)

end World

section

variable {σ α : Type}

def change (effect : World σ → World σ) : Action σ Unit := fun world =>
  some (.ok (), effect world)

def fail (context : Context) (fault : Fault) : Action σ α := fun world =>
  some (.error (.run ⟨fault, context.trace⟩), world)

/-- The action of a loop that goes round too often. -/
def endless : Action σ α := fun _ => none

/-- The value of an answer, with its fault as a failure. -/
def answered (context : Context) : Answer → Action σ Value
  | .ok value => pure value
  | .error fault => fail context fault

def load (slot : Nat) : Action σ Value := fun world =>
  some (.ok (world.load slot), world)

def save (slot : Nat) (value : Value) : Action σ Unit :=
  change (·.save slot value)

/-- The elements of a list; none of what is no list. -/
def itemsOf : Value → List Value
  | .list items => items
  | _ => []

/-- The state of the loop whose element is in the slot, as a new object. -/
def loopState (slot : Nat) : Action σ Value := fun world =>
  let index := (world.load (slot + 1)).toInteger.toNat
  let state := Object.loopAt index (itemsOf (world.load (slot + 2)))
  some (.ok (.object (.made world.made) state), { world with made := world.made + 1 })

/-- What an action writes, instead of writing it. -/
def captured (action : Action σ Unit) : Action σ String := fun world =>
  match action { world with written := "" } with
  | none => none
  | some (.error failure, after) => some (.error failure, { after with written := world.written })
  | some (.ok (), after) => some (.ok after.written, { after with written := world.written })

end

/-! ## Operators -/

/-- What an operator makes of its operands. -/
def operate (left right : Value) : Node.BinaryOp → Answer
  | .add => .ok (left.add right)
  | .sub => .ok (left.sub right)
  | .mul => .ok (left.mul right)
  | .div => left.div right
  | .mod => left.rem right
  | .concat => .ok (.text (left.display ++ right.display))
  | .eq => .ok (.bool (left.looseEq right))
  | .ne => .ok (.bool !left.looseEq right)
  | .lt => .ok (.bool ((left.compare right).any Ordering.isLT))
  | .gt => .ok (.bool ((left.compare right).any Ordering.isGT))
  | .le => .ok (.bool ((left.compare right).any Ordering.isLE))
  | .ge => .ok (.bool ((left.compare right).any Ordering.isGE))
  | .and => .ok (if left.isTruthy then right else left)
  | .or => .ok (if left.isTruthy then left else right)

def operateOne (operand : Value) : Node.UnaryOp → Value
  | .not => .bool !operand.isTruthy
  | .neg => operand.neg

/-- Whether the first operand of an operator decides already. -/
def decides (left : Value) : Node.BinaryOp → Bool
  | .and => !left.isTruthy
  | .or => left.isTruthy
  | _ => false

/-- A value as raw text; nil stays. -/
def raw : Value → Value
  | .nil => .nil
  | value => .raw value.display

/-- So many integers, from one on. -/
def countFrom (first : Int) : Nat → List Value
  | 0 => []
  | more + 1 => .int (Int64.ofInt first) :: countFrom (first + 1) more

/-- The integers of a range, unless there are too many. -/
def integersOf (limits : Limits) (first last : Int) : Answer :=
  let size := (last - first + 1).toNat
  if size ≤ limits.maxRange then .ok (.list (countFrom first size))
  else .error (.rangeTooLong first last size limits.maxRange)

/-- What a filter makes of a value; three of them need no function. -/
def applyFilter (library : Library) (name : String) (value : Value) : Answer :=
  match name with
  | "html" => .ok value.escapeHtml
  | "uri" => .ok value.escapeUri
  | "raw" => .ok (raw value)
  | _ => library.call name [value]

/-! ## Loops

Both kinds of loop count in signed numbers of 64 bits. What they go by is their own: the index, the
list and the count are stored beside the element for those who look there, and not read back. -/

section

variable {σ : Type}

/-- Goes on over the items of a list from the one after the last index. -/
def forRounds (context : Context) (slot max : Nat) (items : List Value) (body : Action σ Unit) :
    Nat → Int64 → Action σ Unit
  | 0, _ => endless
  | rounds + 1, last =>
      let index := last + 1
      match items[index.toInt.toNat]? with
      | none => pure ()
      | some item =>
          if max ≤ index.toInt.toNat then change (·.warn (.forStopped context.template max))
          else do
            save slot item
            save (slot + 1) (.int index)
            body
            forRounds context slot max items body rounds index

def forAll (context : Context) (slot max : Nat) (items : List Value) (body : Action σ Unit)
    (rounds : Nat) : Action σ Unit := do
  save slot .nil
  save (slot + 1) (.int (-1))
  save (slot + 2) (.list items)
  forRounds context slot max items body rounds (-1)

/-- Goes on while the condition holds and the count stays within its ceiling. -/
def whileRounds (context : Context) (slot max : Nat) (condition : Action σ Value)
    (body : Action σ Unit) : Nat → Int64 → Action σ Unit
  | 0, _ => endless
  | rounds + 1, last => do
      let test ← condition
      if test.isTruthy then
        let count := last + 1
        save slot (.int count)
        if 0 ≤ count.toInt ∧ count.toInt ≤ max then
          body
          whileRounds context slot max condition body rounds count
        else change (·.warn (.whileStopped context.template max))
      else pure ()

def whileTrue (context : Context) (slot max : Nat) (condition : Action σ Value)
    (body : Action σ Unit) (rounds : Nat) : Action σ Unit := do
  save slot (.int 0)
  whileRounds context slot max condition body rounds 0

end

/-! ## Calls

How callees are rendered is a parameter here, which there is none of where calls are nested as deep
as they may. -/

/-- Renders the nodes of a callee in its context. -/
abbrev Renderer (σ : Type) := Context → List Node → Action σ Unit

section

variable {σ : Type} (surroundings : Surroundings σ) (render? : Option (Renderer σ))

/-- Renders the nodes of a callee with slots of its own. -/
def call (context : Context) (callee : String) (inner : Context) (slots : List Value)
    (nodes : List Node) : Action σ Unit :=
  match render? with
  | none => fail context (.callTooDeep surroundings.limits.maxDepth callee)
  | some render => fun world =>
      (render inner nodes { world with slots }).map fun (result, after) =>
        (result, { after with slots := world.slots })

/-- Calls a macro; its value is what it writes, as raw text. -/
def callMacro (context : Context) (name : String) (arguments : List Value) : Action σ Value :=
  match context.definitions name with
  | none => fail context (.undefinedMacro name)
  | some definition =>
      if definition.parameters.length ≠ arguments.length then
        fail context (.arity "macro" name definition.parameters.length arguments.length)
      else do
        let text ← captured (call surroundings render? context s!"macro '{name}'"
          (context.inMacro name) arguments definition.body)
        return .raw text

/-- Renders another template in place. -/
def runTemplate (context : Context) (name : String) (bindings : Option (Dictionary Value)) :
    Action σ Unit :=
  match surroundings.trees with
  | none => fail context (.noLoader name)
  | some find => fun world =>
      match find name world.store with
      | (.error failure, store) => some (.error (failure.out context.trace), { world with store })
      | (.ok template, store) =>
          call surroundings render? context s!"include '{name}'"
            (context.inTemplate name template bindings) [] template.nodes { world with store }

end

/-! ## Nodes -/

section

variable {σ : Type} (surroundings : Surroundings σ) (render? : Option (Renderer σ))
  (context : Context)

mutual

/-- The value of an expression. Operands are evaluated from left to right. -/
def expression : Node → Action σ Value
  | .int _ n => pure (.int n)
  | .uint _ n => pure (.uint n)
  | .float _ x => pure (.float x)
  | .string _ s => pure (.text s)
  | .bool _ b => pure (.bool b)
  | .nil _ => pure .nil
  | .localVar _ _ slot => load slot
  | .symbol _ name => pure (context.lookup surroundings.vars name)
  | .loopVar _ slot => loopState slot
  | .field _ container name => do
      let value ← expression container
      answered context (surroundings.library.fetchField value name)
  | .index _ container position => do
      let value ← expression container
      let place ← expression position
      return surroundings.library.fetchElement value place
  | .methodCall _ invocant name arguments => do
      let value ← expression invocant
      let rest ← each arguments
      answered context (surroundings.library.callMethod value name rest)
  | .functionCall _ name arguments => do
      let values ← each arguments
      answered context (surroundings.library.call name values)
  | .macroCall _ name arguments => do
      let values ← each arguments
      callMacro surroundings render? context name values
  | .filter _ operand name => do
      let value ← expression operand
      answered context (applyFilter surroundings.library name value)
  | .unary _ op operand => do
      let value ← expression operand
      return operateOne value op
  | .binary _ op left right => do
      let first ← expression left
      if decides first op then return first
      else
        let second ← expression right
        answered context (operate first second op)
  | .assign _ _ slot value => do
      let result ← expression value
      save slot result
      return result
  | .list _ items => do
      return .list (← each items)
  | .range _ first last => do
      let low ← expression first
      let high ← expression last
      answered context (integersOf surroundings.limits low.toInteger high.toInteger)
  | _ => pure .nil

/-- The values of some expressions, in their order. -/
def each : List Node → Action σ (List Value)
  | [] => pure []
  | first :: rest => do
      let value ← expression first
      return value :: (← each rest)

/-- The values of some bindings with their names. -/
def eachBound : List (String × Node) → Action σ (List (String × Value))
  | [] => pure []
  | (name, first) :: rest => do
      let value ← expression first
      return (name, value) :: (← eachBound rest)

end

/-- The bindings passed to a template; none are not the same as an empty set of them. -/
def passed (bound : List (String × Node)) : Action σ (Option (Dictionary Value)) := do
  if bound.isEmpty then return none
  else return some (Dictionary.ofList (← eachBound surroundings render? context bound))

mutual

/-- The effect of a statement. A macro has none where it is declared. -/
def statement (rounds : Nat) : Node → Action σ Unit
  | .text _ s => change (·.write s)
  | .print _ operand => do
      let value ← expression surroundings render? context operand
      change (·.print context value)
  | .discard _ operand => do
      let _ ← expression surroundings render? context operand
  | .conditional _ condition positive negative => do
      let test ← expression surroundings render? context condition
      if test.isTruthy then block rounds positive else block rounds negative
  | .forLoop _ _ slot source body max => do
      let list ← expression surroundings render? context source
      forAll context slot max (itemsOf list) (block rounds body) rounds
  | .whileLoop _ condition body slot max =>
      whileTrue context slot max (expression surroundings render? context condition)
        (block rounds body) rounds
  | .macroDef .. => pure ()
  | .inclusion _ template bound => do
      let name ← expression surroundings render? context template
      let bindings ← passed surroundings render? context bound
      runTemplate surroundings render? context name.display bindings
  | .wrapper _ template bound body => do
      let content ← captured (block rounds body)
      let name ← expression surroundings render? context template
      let bindings ← passed surroundings render? context bound
      runTemplate surroundings render? context name.display
        (some ((bindings.getD []).insert "content" (.raw content)))
  | other => do
      let _ ← expression surroundings render? context other

def block (rounds : Nat) : List Node → Action σ Unit
  | [] => pure ()
  | first :: rest => do
      statement rounds first
      block rounds rest

end

end

/-! ## Templates -/

/-- Renders nodes where calls may be nested as much deeper as is said. -/
def renderWithin {σ : Type} (surroundings : Surroundings σ) (rounds : Nat) : Nat → Renderer σ
  | 0 => fun context => block surroundings none context rounds
  | deeper + 1 => fun context =>
      block surroundings (some (renderWithin surroundings rounds deeper)) context rounds

/-- What rendering a template shows, and the store it leaves. -/
def render {σ : Type} (surroundings : Surroundings σ) (rounds : Nat) (template : Template)
    (store : σ) : Option (Machine.Report × σ) :=
  let world : World σ := ⟨[], "", 0, #[], store⟩
  (renderWithin surroundings rounds surroundings.limits.maxDepth (.ofTemplate template)
    template.nodes world).map fun (result, after) =>
      let ending := match result with
        | .ok () => .finished
        | .error failure => .failed failure
      (⟨ending, after.written, after.warnings.toList⟩, after.store)

end Stencil.Meaning

import Stencil.Proofs.Machine.Slots
import Stencil.Proofs.Meaning.Basic

/-!
# Slots that stay

Which slots of its frame a node writes, and that rendering it leaves all others as they are. A
macro has a frame of its own, and so has a template that is included.
-/

namespace Stencil

namespace Node

mutual

/-- The slots that a node writes in the frame that it stands in. -/
def stored : Node → List Nat
  | .field _ container _ => stored container
  | .index _ container position => stored container ++ stored position
  | .methodCall _ invocant _ arguments => stored invocant ++ storedAll arguments
  | .functionCall _ _ arguments | .macroCall _ _ arguments => storedAll arguments
  | .filter _ operand _ | .unary _ _ operand | .print _ operand | .discard _ operand =>
      stored operand
  | .binary _ _ left right => stored left ++ stored right
  | .assign _ _ slot value => slot :: stored value
  | .list _ items => storedAll items
  | .range _ first last => stored first ++ stored last
  | .conditional _ condition positive negative =>
      stored condition ++ storedAll positive ++ storedAll negative
  | .forLoop _ _ slot source body _ =>
      [slot, slot + 1, slot + 2] ++ stored source ++ storedAll body
  | .whileLoop _ condition body slot _ => slot :: stored condition ++ storedAll body
  | .inclusion _ template bindings => stored template ++ storedBindings bindings
  | .wrapper _ template bindings body =>
      storedAll body ++ stored template ++ storedBindings bindings
  | _ => []

def storedAll : List Node → List Nat
  | [] => []
  | first :: rest => stored first ++ storedAll rest

def storedBindings : List (String × Node) → List Nat
  | [] => []
  | (_, first) :: rest => stored first ++ storedBindings rest

end

end Node

namespace Meaning

variable {σ α β : Type}

namespace World

variable {world : World σ} {slot other : Nat} {value : Value}

theorem load_save_self : (world.save slot value).load slot = value :=
  congrArg (·.getD .nil) (Machine.getElem?_setSlot_self world.slots slot value)

theorem load_save_other (apart : other ≠ slot) :
    (world.save slot value).load other = world.load other :=
  Machine.setSlot_other value apart

theorem store_print {context : Context} : (world.print context value).store = world.store := by
  cases value <;> rfl

theorem load_print {context : Context} :
    (world.print context value).load slot = world.load slot := by
  cases value <;> rfl

end World

/-- An action with a value leaves a slot as it was. -/
def Keeps (slot : Nat) (action : Action σ α) : Prop :=
  ∀ world value after, action world = some (.ok value, after) → after.load slot = world.load slot

namespace Keeps

variable {slot : Nat} {surroundings : Surroundings σ} {render? : Option (Renderer σ)}
  {context : Context}

theorem pure (value : α) : Keeps slot (Pure.pure value : Action σ α) := by
  rintro world _ _ ⟨⟩
  rfl

theorem bind {action : Action σ α} {further : α → Action σ β} (keeps : Keeps slot action)
    (keeps' : ∀ value, Keeps slot (further value)) : Keeps slot (action >>= further) := by
  intro world value after acted
  obtain ⟨first, between, begun, further⟩ := Action.of_bind_ok acted
  rw [keeps' first between value after further, keeps world first between begun]

theorem ite {condition : Prop} [Decidable condition] {first second : Action σ α}
    (keeps : Keeps slot first) (keeps' : Keeps slot second) :
    Keeps slot (if condition then first else second) := by
  split
  · exact keeps
  · exact keeps'

theorem fail (fault : Fault) : Keeps slot (Meaning.fail context fault : Action σ α) := by
  rintro world _ _ ⟨⟩

theorem endless : Keeps slot (Meaning.endless : Action σ α) := by
  rintro world _ _ ⟨⟩

theorem answered (answer : Answer) :
    Keeps slot (Meaning.answered context answer : Action σ Value) := by
  cases answer with
  | ok value => exact pure value
  | error fault => exact fail fault

theorem change {effect : World σ → World σ}
    (keeps : ∀ world, (effect world).load slot = world.load slot) :
    Keeps slot (Meaning.change effect) := by
  rintro world _ _ ⟨⟩
  exact keeps world

theorem load (other : Nat) : Keeps slot (Meaning.load other : Action σ Value) := by
  rintro world _ _ ⟨⟩
  rfl

theorem save {other : Nat} (value : Value) (apart : slot ≠ other) :
    Keeps slot (Meaning.save other value : Action σ Unit) :=
  change fun _ => World.load_save_other apart

theorem loopState (other : Nat) : Keeps slot (Meaning.loopState other : Action σ Value) := by
  rintro world _ _ ⟨⟩
  rfl

theorem captured {action : Action σ Unit} (keeps : Keeps slot action) :
    Keeps slot (Meaning.captured action) := by
  intro world value after acted
  unfold Meaning.captured at acted
  split at acted
  · cases acted
  · cases acted
  · next inner begun =>
      cases acted
      have kept := keeps _ _ _ begun
      exact kept

/-! ## Calls -/

theorem call (callee : String) (inner : Context) (slots : List Value) (nodes : List Node) :
    Keeps slot (Meaning.call surroundings render? context callee inner slots nodes) := by
  cases render? with
  | none => exact fail _
  | some render =>
      intro world value after acted
      obtain ⟨⟨_, _⟩, _, same⟩ := Option.map_eq_some_iff.mp acted
      cases same
      rfl

theorem callMacro (name : String) (arguments : List Value) :
    Keeps slot (Meaning.callMacro surroundings render? context name arguments) := by
  unfold Meaning.callMacro
  split
  · exact fail _
  · refine ite (fail _) (bind (captured (call _ _ _ _)) fun _ => pure _)

theorem runTemplate (name : String) (bindings : Option (Dictionary Value)) :
    Keeps slot (Meaning.runTemplate surroundings render? context name bindings) := by
  unfold Meaning.runTemplate
  split
  · exact fail _
  · intro world value after acted
    dsimp only at acted
    split at acted
    · cases acted
    · have kept : after.load slot = _ := call _ _ _ _ _ _ _ acted
      exact kept

/-! ## Loops -/

theorem forAll {first max : Nat} {items : List Value} {body : Action σ Unit} (rounds : Nat)
    (apart : slot ∉ [first, first + 1, first + 2]) (keeps : Keeps slot body) :
    Keeps slot (Meaning.forAll context first max items body rounds) := by
  simp only [List.mem_cons, List.not_mem_nil, or_false, not_or] at apart
  obtain ⟨element, index, list⟩ := apart
  have loop (last : Int64) :
      Keeps slot (forRounds context first max items body rounds last) := by
    induction rounds generalizing last with
    | zero => exact endless
    | succ rounds ih =>
        unfold forRounds
        dsimp only
        split
        · exact pure ()
        · refine ite (change fun _ => rfl) ?_
          exact (save _ element).bind fun _ => (save _ index).bind fun _ => keeps.bind fun _ => ih _
  exact (save _ element).bind fun _ => (save _ index).bind fun _ => (save _ list).bind fun _ =>
    loop _

theorem whileTrue {first max : Nat} {condition : Action σ Value} {body : Action σ Unit}
    (rounds : Nat) (apart : slot ≠ first) (keeps : Keeps slot condition)
    (keeps' : Keeps slot body) :
    Keeps slot (Meaning.whileTrue context first max condition body rounds) := by
  have loop (last : Int64) :
      Keeps slot (whileRounds context first max condition body rounds last) := by
    induction rounds generalizing last with
    | zero => exact endless
    | succ rounds ih =>
        refine keeps.bind fun test => ite ?_ (pure ())
        refine (save _ apart).bind fun _ => ite (keeps'.bind fun _ => ih _) (change fun _ => rfl)
  exact (save _ apart).bind fun _ => loop _

end Keeps

/-! ## Nodes -/

section

open Node

variable {slot : Nat} {surroundings : Surroundings σ} {render? : Option (Renderer σ)}
  {context : Context}

mutual

/-- An expression leaves the slots that it does not write as they are. -/
theorem keeps_expression : ∀ node : Node, slot ∉ stored node →
    Keeps slot (expression surroundings render? context node)
  | .int .., _ | .uint .., _ | .float .., _ | .string .., _ | .bool .., _ | .nil _, _
  | .symbol .., _ => .pure _
  | .localVar _ _ other, _ => .load other
  | .loopVar _ other, _ => .loopState other
  | .field _ container _, absent =>
      (keeps_expression container absent).bind fun _ => .answered _
  | .index _ container position, absent => by
      obtain ⟨first, second⟩ := not_or.mp (mt List.mem_append.mpr absent)
      exact (keeps_expression container first).bind fun _ =>
        (keeps_expression position second).bind fun _ => .pure _
  | .methodCall _ invocant _ arguments, absent => by
      obtain ⟨first, second⟩ := not_or.mp (mt List.mem_append.mpr absent)
      exact (keeps_expression invocant first).bind fun _ =>
        (keeps_each arguments second).bind fun _ => .answered _
  | .functionCall _ _ arguments, absent =>
      (keeps_each arguments absent).bind fun _ => .answered _
  | .macroCall _ _ arguments, absent =>
      (keeps_each arguments absent).bind fun _ => .callMacro _ _
  | .filter _ operand _, absent => (keeps_expression operand absent).bind fun _ => .answered _
  | .unary _ _ operand, absent => (keeps_expression operand absent).bind fun _ => .pure _
  | .binary _ _ left right, absent => by
      obtain ⟨first, second⟩ := not_or.mp (mt List.mem_append.mpr absent)
      exact (keeps_expression left first).bind fun _ => .ite (.pure _)
        ((keeps_expression right second).bind fun _ => .answered _)
  | .assign _ _ other value, absent => by
      obtain ⟨apart, inner⟩ := not_or.mp (mt List.mem_cons.mpr absent)
      exact (keeps_expression value inner).bind fun _ => (Keeps.save _ apart).bind fun _ => .pure _
  | .list _ items, absent => (keeps_each items absent).bind fun _ => .pure _
  | .range _ first last, absent => by
      obtain ⟨low, high⟩ := not_or.mp (mt List.mem_append.mpr absent)
      exact (keeps_expression first low).bind fun _ =>
        (keeps_expression last high).bind fun _ => .answered _
  | .text .., _ | .print .., _ | .discard .., _ | .conditional .., _ | .forLoop .., _
  | .whileLoop .., _ | .macroDef .., _ | .inclusion .., _ | .wrapper .., _ => .pure _

theorem keeps_each : ∀ nodes : List Node, slot ∉ storedAll nodes →
    Keeps slot (each surroundings render? context nodes)
  | [], _ => .pure _
  | first :: rest, absent => by
      obtain ⟨here, further⟩ := not_or.mp (mt List.mem_append.mpr absent)
      exact (keeps_expression first here).bind fun _ => (keeps_each rest further).bind fun _ =>
        .pure _

theorem keeps_eachBound : ∀ bound : List (String × Node), slot ∉ storedBindings bound →
    Keeps slot (eachBound surroundings render? context bound)
  | [], _ => .pure _
  | (_, first) :: rest, absent => by
      obtain ⟨here, further⟩ := not_or.mp (mt List.mem_append.mpr absent)
      exact (keeps_expression first here).bind fun _ =>
        (keeps_eachBound rest further).bind fun _ => .pure _

end

theorem keeps_passed {bound : List (String × Node)} (absent : slot ∉ storedBindings bound) :
    Keeps slot (passed surroundings render? context bound) :=
  .ite (.pure _) ((keeps_eachBound bound absent).bind fun _ => .pure _)

mutual

/-- A statement leaves the slots that it does not write as they are. -/
theorem keeps_statement (rounds : Nat) : ∀ node : Node, slot ∉ stored node →
    Keeps slot (statement surroundings render? context rounds node)
  | .text .., _ => .change fun _ => rfl
  | .print _ operand, absent =>
      (keeps_expression operand absent).bind fun _ => .change fun _ => World.load_print
  | .discard _ operand, absent => (keeps_expression operand absent).bind fun _ => .pure _
  | .conditional _ condition positive negative, absent => by
      obtain ⟨front, second⟩ := not_or.mp (mt List.mem_append.mpr absent)
      obtain ⟨test, first⟩ := not_or.mp (mt List.mem_append.mpr front)
      exact (keeps_expression condition test).bind fun _ =>
        .ite (keeps_block rounds positive first) (keeps_block rounds negative second)
  | .forLoop _ _ other source body max, absent => by
      obtain ⟨front, inner⟩ := not_or.mp (mt List.mem_append.mpr absent)
      obtain ⟨apart, list⟩ := not_or.mp (mt List.mem_append.mpr front)
      exact (keeps_expression source list).bind fun _ =>
        .forAll rounds apart (keeps_block rounds body inner)
  | .whileLoop _ condition body other max, absent => by
      obtain ⟨front, inner⟩ := not_or.mp (mt List.mem_append.mpr absent)
      obtain ⟨apart, test⟩ := not_or.mp (mt List.mem_cons.mpr front)
      exact .whileTrue rounds apart (keeps_expression condition test)
        (keeps_block rounds body inner)
  | .macroDef .., _ => .pure _
  | .inclusion _ template bound, absent => by
      obtain ⟨name, passed⟩ := not_or.mp (mt List.mem_append.mpr absent)
      exact (keeps_expression template name).bind fun _ => (keeps_passed passed).bind fun _ =>
        .runTemplate _ _
  | .wrapper _ template bound body, absent => by
      obtain ⟨front, passed⟩ := not_or.mp (mt List.mem_append.mpr absent)
      obtain ⟨inner, name⟩ := not_or.mp (mt List.mem_append.mpr front)
      exact (Keeps.captured (keeps_block rounds body inner)).bind fun _ =>
        (keeps_expression template name).bind fun _ => (keeps_passed passed).bind fun _ =>
          .runTemplate _ _
  | .int .., absent | .uint .., absent | .float .., absent | .string .., absent
  | .bool .., absent | .nil _, absent | .localVar .., absent | .symbol .., absent
  | .loopVar .., absent | .field .., absent | .index .., absent | .methodCall .., absent
  | .functionCall .., absent | .macroCall .., absent | .filter .., absent | .unary .., absent
  | .binary .., absent | .assign .., absent | .list .., absent | .range .., absent =>
      (keeps_expression _ absent).bind fun _ => .pure _

theorem keeps_block (rounds : Nat) : ∀ nodes : List Node, slot ∉ storedAll nodes →
    Keeps slot (block surroundings render? context rounds nodes)
  | [], _ => .pure _
  | first :: rest, absent => by
      obtain ⟨here, further⟩ := not_or.mp (mt List.mem_append.mpr absent)
      exact (keeps_statement rounds first here).bind fun _ => keeps_block rounds rest further

end

end

end Meaning

end Stencil

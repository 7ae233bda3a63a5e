import Mathlib.Algebra.Group.Nat.Defs
import Stencil.Proofs.Meaning.Basic

/-!
# Renderings with an outcome

Loops advance by one each time they go round, and stop at their ceilings. Where these are small
enough for the numbers that count, and loops may go round more often than any ceiling says, each
rendering has an outcome.
-/

namespace Stencil

/-- A loop goes round no more often than a ceiling says. -/
def Node.Bounded (ceiling : Nat) : Node → Prop
  | .forLoop _ _ _ _ _ max => max ≤ ceiling
  | .whileLoop _ _ _ _ max => max ≤ ceiling
  | _ => True

namespace Meaning

variable {σ α β : Type}

/-- An action that has an outcome in every world. -/
def Total (action : Action σ α) : Prop :=
  ∀ world, action world ≠ none

/-- The macros that can be called have only loops below a ceiling. -/
def Context.Bounded (ceiling : Nat) (context : Context) : Prop :=
  ∀ name definition, context.definitions name = some definition →
    ∀ inner ∈ Node.walkAll definition.body, inner.Bounded ceiling

/-- Callees have only loops below a ceiling, and outcomes. -/
structure Tame (ceiling : Nat) (surroundings : Surroundings σ) (render? : Option (Renderer σ)) :
    Prop where
  trees : ∀ find ∈ surroundings.trees, ∀ name store template after,
    find name store = (.ok template, after) → ∀ inner ∈ template.walk, inner.Bounded ceiling
  render : ∀ render ∈ render?, ∀ context nodes, context.Bounded ceiling →
    (∀ inner ∈ Node.walkAll nodes, inner.Bounded ceiling) → Total (render context nodes)

namespace Total

theorem pure (value : α) : Total (Pure.pure value : Action σ α) :=
  nofun

theorem bind {action : Action σ α} {further : α → Action σ β} (total : Total action)
    (total' : ∀ value, Total (further value)) : Total (action >>= further) := by
  intro world missing
  cases acted : action world with
  | none => exact total world acted
  | some outcome =>
      obtain ⟨result, after⟩ := outcome
      cases result with
      | error failure =>
          rw [Action.bind_error acted] at missing
          cases missing
      | ok value =>
          rw [Action.bind_ok acted] at missing
          exact total' value after missing

theorem ite {condition : Prop} [Decidable condition] {first second : Action σ α}
    (total : condition → Total first) (total' : ¬ condition → Total second) :
    Total (if condition then first else second) := by
  split
  · next holds => exact total holds
  · next fails => exact total' fails

theorem fail {context : Context} (fault : Fault) :
    Total (Meaning.fail context fault : Action σ α) :=
  nofun

theorem answered {context : Context} (answer : Answer) :
    Total (Meaning.answered context answer : Action σ Value) := by
  cases answer with
  | ok value => exact pure value
  | error fault => exact fail fault

theorem change (effect : World σ → World σ) : Total (Meaning.change effect) :=
  nofun

theorem load (slot : Nat) : Total (Meaning.load slot : Action σ Value) :=
  nofun

theorem save (slot : Nat) (value : Value) : Total (Meaning.save slot value : Action σ Unit) :=
  change _

theorem loopState (slot : Nat) : Total (Meaning.loopState slot : Action σ Value) :=
  nofun

theorem captured {action : Action σ Unit} (total : Total action) :
    Total (Meaning.captured action) := by
  intro world
  have begun := total { world with written := "" }
  unfold Meaning.captured
  split
  · next none => exact absurd none begun
  · nofun
  · nofun

/-! ## Loops -/

variable {context : Context} {slot max rounds : Nat}

/-- Only after the greatest number counting goes on below zero. -/
theorem toInt_add_one (last : Int64) :
    (last + 1).toInt = last.toInt + 1 ∨ last.toInt + 1 = 0x8000000000000000 ∧ (last + 1).toInt < 0 := by
  have least := last.le_toInt
  have greatest := last.toInt_lt
  rw [Int64.toInt_add, Int64.toInt_one, Int.bmod]
  split <;> omega

theorem forAll {items : List Value} {body : Action σ Unit} (small : max < 2 ^ 63)
    (enough : max < rounds) (total : Total body) :
    Total (Meaning.forAll context slot max items body rounds) := by
  have loop (rounds : Nat) (last : Int64) (begun : -1 ≤ last.toInt) (below : last.toInt + 1 ≤ max)
      (enough : max < rounds + (last.toInt + 1)) :
      Total (forRounds context slot max items body rounds last) := by
    induction rounds generalizing last with
    | zero => omega
    | succ rounds ih =>
        have counted := toInt_add_one last
        unfold forRounds
        dsimp only
        split
        · exact pure ()
        · refine ite (fun _ => change _) fun more => ?_
          exact (save _ _).bind fun _ => (save _ _).bind fun _ => total.bind fun _ =>
            ih (last + 1) (by omega) (by omega) (by omega)
  have first : (-1 : Int64).toInt = -1 := rfl
  exact (save _ _).bind fun _ => (save _ _).bind fun _ => (save _ _).bind fun _ =>
    loop rounds (-1) (by omega) (by omega) (by omega)

theorem whileTrue {condition : Action σ Value} {body : Action σ Unit} (small : max < 2 ^ 63)
    (enough : max < rounds) (total : Total condition) (total' : Total body) :
    Total (Meaning.whileTrue context slot max condition body rounds) := by
  have loop (rounds : Nat) (last : Int64) (begun : 0 ≤ last.toInt) (below : last.toInt ≤ max)
      (enough : max < rounds + last.toInt) :
      Total (whileRounds context slot max condition body rounds last) := by
    induction rounds generalizing last with
    | zero => omega
    | succ rounds ih =>
        refine total.bind fun test => ite (fun _ => ?_) fun _ => pure ()
        refine (save _ _).bind fun _ => ite (fun within => ?_) fun _ => change _
        have counted := toInt_add_one last
        exact total'.bind fun _ => ih (last + 1) (by omega) within.2 (by omega)
  have first : (0 : Int64).toInt = 0 := rfl
  exact (save _ _).bind fun _ => loop rounds 0 (by omega) (by omega) (by omega)

/-! ## Calls -/

variable {ceiling : Nat} {surroundings : Surroundings σ} {render? : Option (Renderer σ)}

theorem call (tame : Tame ceiling surroundings render?) (callee : String) {inner : Context}
    (slots : List Value) {nodes : List Node} (bounded : inner.Bounded ceiling)
    (bounded' : ∀ node ∈ Node.walkAll nodes, node.Bounded ceiling) :
    Total (Meaning.call surroundings render? context callee inner slots nodes) := by
  cases render? with
  | none => exact fail _
  | some render =>
      intro world missing
      exact tame.render render rfl inner nodes bounded bounded' _
        (Option.map_eq_none_iff.mp missing)

theorem callMacro (tame : Tame ceiling surroundings render?) (bounded : context.Bounded ceiling)
    (name : String) (arguments : List Value) :
    Total (Meaning.callMacro surroundings render? context name arguments) := by
  unfold Meaning.callMacro
  split
  · exact fail _
  · next definition defined =>
      refine ite (fun _ => fail _) fun _ => ?_
      refine bind (captured (call tame _ _ ?_ (bounded name definition defined))) fun _ => pure _
      exact bounded

theorem runTemplate (tame : Tame ceiling surroundings render?) (name : String)
    (bindings : Option (Dictionary Value)) :
    Total (Meaning.runTemplate surroundings render? context name bindings) := by
  unfold Meaning.runTemplate
  split
  · exact fail _
  · next find present =>
      intro world
      dsimp only
      split
      · nofun
      · next template store found =>
          have bounded := tame.trees find present name world.store template store found
          refine call tame _ _ ?_ bounded _
          intro other definition defined inner inside
          exact bounded inner (mem_walkAll_of_definition? defined inner inside)

end Total

/-! ## Nodes -/

section

variable {ceiling rounds : Nat} {surroundings : Surroundings σ} {render? : Option (Renderer σ)}
  {context : Context}

mutual

theorem total_expression (tame : Tame ceiling surroundings render?)
    (bounded : context.Bounded ceiling) : ∀ node : Node,
    Total (expression surroundings render? context node)
  | .int .. | .uint .. | .float .. | .string .. | .bool .. | .nil _ | .symbol .. => .pure _
  | .localVar _ _ slot => .load slot
  | .loopVar _ slot => .loopState slot
  | .field _ operand _ | .filter _ operand _ =>
      (total_expression tame bounded operand).bind fun _ => .answered _
  | .unary _ _ operand => (total_expression tame bounded operand).bind fun _ => .pure _
  | .assign _ _ _ operand =>
      (total_expression tame bounded operand).bind fun _ => (Total.save _ _).bind fun _ => .pure _
  | .index _ left right =>
      (total_expression tame bounded left).bind fun _ =>
        (total_expression tame bounded right).bind fun _ => .pure _
  | .range _ left right =>
      (total_expression tame bounded left).bind fun _ =>
        (total_expression tame bounded right).bind fun _ => .answered _
  | .binary _ _ left right =>
      (total_expression tame bounded left).bind fun _ => .ite (fun _ => .pure _) fun _ =>
        (total_expression tame bounded right).bind fun _ => .answered _
  | .methodCall _ invocant _ arguments =>
      (total_expression tame bounded invocant).bind fun _ =>
        (total_each tame bounded arguments).bind fun _ => .answered _
  | .functionCall _ _ arguments => (total_each tame bounded arguments).bind fun _ => .answered _
  | .macroCall _ _ arguments =>
      (total_each tame bounded arguments).bind fun _ => .callMacro tame bounded _ _
  | .list _ items => (total_each tame bounded items).bind fun _ => .pure _
  | .text .. | .print .. | .discard .. | .conditional .. | .forLoop .. | .whileLoop ..
  | .macroDef .. | .inclusion .. | .wrapper .. => .pure _

theorem total_each (tame : Tame ceiling surroundings render?) (bounded : context.Bounded ceiling) :
    ∀ nodes : List Node, Total (each surroundings render? context nodes)
  | [] => .pure _
  | first :: rest =>
      (total_expression tame bounded first).bind fun _ =>
        (total_each tame bounded rest).bind fun _ => .pure _

theorem total_eachBound (tame : Tame ceiling surroundings render?)
    (bounded : context.Bounded ceiling) : ∀ bound : List (String × Node),
    Total (eachBound surroundings render? context bound)
  | [] => .pure _
  | (_, first) :: rest =>
      (total_expression tame bounded first).bind fun _ =>
        (total_eachBound tame bounded rest).bind fun _ => .pure _

end

theorem total_passed (tame : Tame ceiling surroundings render?) (bounded : context.Bounded ceiling)
    (bound : List (String × Node)) : Total (passed surroundings render? context bound) :=
  .ite (fun _ => .pure _) fun _ => (total_eachBound tame bounded bound).bind fun _ => .pure _

mutual

/-- Statements have outcomes where loops may go round more often than their ceilings say. -/
theorem total_statement (tame : Tame ceiling surroundings render?)
    (bounded : context.Bounded ceiling) (small : ceiling < 2 ^ 63) (enough : ceiling < rounds) :
    ∀ node : Node, (∀ inner ∈ node.walk, inner.Bounded ceiling) →
      Total (statement surroundings render? context rounds node)
  | .text .., _ => .change _
  | .print _ operand, _ => (total_expression tame bounded operand).bind fun _ => .change _
  | .discard _ operand, _ => (total_expression tame bounded operand).bind fun _ => .pure _
  | .conditional _ condition positive negative, inside => by
      simp only [Node.walk, List.forall_mem_cons, List.forall_mem_append] at inside
      exact (total_expression tame bounded condition).bind fun _ =>
        .ite (fun _ => total_block tame bounded small enough positive inside.2.1.2)
          fun _ => total_block tame bounded small enough negative inside.2.2
  | .forLoop _ _ slot source body max, inside => by
      simp only [Node.walk, List.forall_mem_cons, List.forall_mem_append] at inside
      obtain ⟨here, _, inner⟩ := inside
      exact (total_expression tame bounded source).bind fun _ =>
        .forAll (Nat.lt_of_le_of_lt here small) (Nat.lt_of_le_of_lt here enough)
          (total_block tame bounded small enough body inner)
  | .whileLoop _ condition body slot max, inside => by
      simp only [Node.walk, List.forall_mem_cons, List.forall_mem_append] at inside
      obtain ⟨here, _, inner⟩ := inside
      exact .whileTrue (Nat.lt_of_le_of_lt here small) (Nat.lt_of_le_of_lt here enough)
        (total_expression tame bounded condition)
        (total_block tame bounded small enough body inner)
  | .macroDef .., _ => .pure _
  | .inclusion _ template bound, _ =>
      (total_expression tame bounded template).bind fun _ =>
        (total_passed tame bounded bound).bind fun _ => .runTemplate tame _ _
  | .wrapper _ template bound body, inside => by
      simp only [Node.walk, List.forall_mem_cons, List.forall_mem_append] at inside
      exact (Total.captured (total_block tame bounded small enough body inside.2.1.1)).bind fun _ =>
        (total_expression tame bounded template).bind fun _ =>
          (total_passed tame bounded bound).bind fun _ => .runTemplate tame _ _
  | .int .., _ | .uint .., _ | .float .., _ | .string .., _ | .bool .., _ | .nil _, _
  | .localVar .., _ | .symbol .., _ | .loopVar .., _ | .field .., _ | .index .., _
  | .methodCall .., _ | .functionCall .., _ | .macroCall .., _ | .filter .., _ | .unary .., _
  | .binary .., _ | .assign .., _ | .list .., _ | .range .., _ =>
      (total_expression tame bounded _).bind fun _ => .pure _

theorem total_block (tame : Tame ceiling surroundings render?) (bounded : context.Bounded ceiling)
    (small : ceiling < 2 ^ 63) (enough : ceiling < rounds) : ∀ nodes : List Node,
    (∀ inner ∈ Node.walkAll nodes, inner.Bounded ceiling) →
      Total (block surroundings render? context rounds nodes)
  | [], _ => .pure _
  | first :: rest, inside => by
      simp only [Node.walkAll, List.forall_mem_append] at inside
      exact (total_statement tame bounded small enough first inside.1).bind fun _ =>
        total_block tame bounded small enough rest inside.2

end

/-- Callees have outcomes however deep they may be called, since each is called less deep. -/
theorem total_renderWithin {deeper : Nat} (tame : Tame ceiling surroundings none)
    (small : ceiling < 2 ^ 63) (enough : ceiling < rounds) {context : Context}
    (bounded : context.Bounded ceiling) {nodes : List Node}
    (bounded' : ∀ inner ∈ Node.walkAll nodes, inner.Bounded ceiling) :
    Total (renderWithin surroundings rounds deeper context nodes) := by
  induction deeper generalizing context nodes with
  | zero => exact total_block tame bounded small enough nodes bounded'
  | succ deeper ih =>
      refine total_block ⟨tame.trees, ?_⟩ bounded small enough nodes bounded'
      rintro _ ⟨⟩ context nodes bounded bounded'
      exact ih bounded bounded'

end

end Meaning

end Stencil

import Stencil.Proofs.Compilation.Fused
import Stencil.Proofs.Meaning.Slots

/-!
# Templates and their code

Which code belongs to a template, whether its prints are fused or not, and what is asked of the
template: no loop writes to the slots by which another one counts, and macros are called where there
are any.
-/

namespace Stencil

open Meaning (Definition definition?)

/-- What is asked of a single node. -/
def Node.Sound (declared : String → Prop) : Node → Prop
  | .macroCall _ name _ => declared name
  | .forLoop _ _ slot _ body _ =>
      slot + 1 ∉ Node.storedAll body ∧ slot + 2 ∉ Node.storedAll body
  | .whileLoop _ condition body slot _ =>
      slot ∉ Node.stored condition ∧ slot ∉ Node.storedAll body
  | _ => True

/-- The code of nodes in a row, where a macro that is declared has none. -/
inductive Emits : List Node → List Op → Prop where
  | nil : Emits [] []
  | declared (place : Place) (name : String) (parameters : List String) (body : List Node)
      {rest : List Node} {code : List Op} (further : Emits rest code) :
      Emits (.macroDef place name parameters body :: rest) code
  | emitted {first : Node} {rest : List Node} {code more : List Op}
      (generated : Generate.statement first = .ok code) (further : Emits rest more) :
      Emits (first :: rest) (code ++ more)

/-- A stream is the code of some nodes and an end. -/
structure Streams (declared : String → Prop) (nodes : List Node) (ops : List Op) : Prop where
  sound : ∀ node ∈ Node.walkAll nodes, node.Sound declared
  narrow : ∀ op ∈ ops, op.Narrow
  code : ∃ plain code, Emits nodes plain ∧ Fused plain code ∧ ops = code ++ [.halt]

/-- A macro that is called has the code of its body. -/
inductive MacroBuilt (declared : String → Prop) : Option Definition → Option MacroCode → Prop where
  | missing : MacroBuilt declared none none
  | present (parameters : List String) {body : List Node} {ops : List Op}
      (streams : Streams declared body ops) :
      MacroBuilt declared (some ⟨parameters, body⟩) (some ⟨parameters, ops⟩)

/-- Whether a template declares a macro. -/
def Template.Declares (template : Template) (name : String) : Prop :=
  (definition? name template.nodes).isSome

structure Built (template : Template) (code : Code) : Prop where
  name : code.name = template.name
  body : Streams template.Declares template.nodes code.ops
  macros : ∀ name, MacroBuilt template.Declares (definition? name template.nodes)
    (Dictionary.find? code.macros name)

theorem Emits.fresh {nodes : List Node} {code : List Op} (emits : Emits nodes code) :
    Fresh code := by
  induction emits with
  | nil => nofun
  | declared _ _ _ _ _ ih => exact ih
  | emitted generated _ ih => exact (Generate.fresh_statement generated).append ih

theorem emits_of_block {nodes : List Node} {code : List Op}
    (generated : Generate.block nodes = .ok code) : Emits nodes code := by
  induction nodes generalizing code with
  | nil =>
      cases generated
      exact .nil
  | cons first rest ih =>
      simp only [Generate.block, bind_eq_ok] at generated
      obtain ⟨code, here, more, further, ⟨⟩⟩ := generated
      exact .emitted here (ih further)

end Stencil

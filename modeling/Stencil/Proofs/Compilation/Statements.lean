import Stencil.Proofs.Compilation.Expressions

/-!
# Code of statements and of streams

The code of a statement has the effect of the statement, whether its prints are fused or not, and a
stream that is called has the effect of rendering its nodes.
-/

namespace Stencil.Machine.Scene

open Meaning (Action Renderer World)

variable {σ τ : Type} {scene : Scene σ τ} {render? : Option (Renderer σ)} {template : Template}

mutual

/-- The code of a statement has the effect of the statement. -/
theorem performs_statement (ready : scene.Ready render? template) :
    ∀ {node : Node} {plain code : List Op}, Generate.statement node = .ok plain →
      Fused plain code → (∀ inner ∈ node.walk, inner.Sound template.Declares) →
      scene.Performs code
        (Meaning.statement scene.surroundings render? scene.context scene.rounds node)
  | .text _ s, _, _, rfl, fused, _ => by
      cases fused with
      | keep op rest =>
          cases rest with
          | keep op rest =>
              cases rest
              exact performs_text s
      | fuse text rest =>
          cases rest
          exact performs_fused s
  | .print _ operand, _, _, generated, fused, sound => by
      simp only [Generate.statement, bind_eq_ok] at generated
      obtain ⟨value, here, ⟨⟩⟩ := generated
      simp only [Node.walk, List.forall_mem_cons] at sound
      obtain rfl := fused.eq_of_quiet
        (quiet_append.mpr ⟨Generate.quiet_expression here, by simp [Quiet]⟩)
      exact (computes_expression ready here sound.2).print
  | .discard _ operand, _, _, generated, fused, sound => by
      simp only [Node.walk, List.forall_mem_cons] at sound
      obtain rfl := fused.eq_of_quiet (Generate.quiet_expression generated)
      exact (computes_expression ready generated sound.2).discard
  | .conditional _ condition positive negative, _, _, generated, fused, sound => by
      simp only [Generate.statement, bind_eq_ok] at generated
      obtain ⟨test, here, first, yes, second, no, ⟨⟩⟩ := generated
      simp only [Node.walk, List.forall_mem_cons, List.forall_mem_append] at sound
      obtain ⟨first', second', rfl, fused, fused'⟩ := fused.branches_inv
        (Generate.quiet_expression here) (Generate.fresh_block yes) (Generate.fresh_block no)
      refine (computes_expression ready here sound.2.1.1).branches _
        (performs_block ready yes fused sound.2.1.2) (performs_block ready no fused' sound.2.2) ?_
      intro empty
      rw [List.isEmpty_iff.mp empty]
      rfl
  | .forLoop _ _ slot source body max, _, _, generated, fused, sound => by
      simp only [Generate.statement, bind_eq_ok] at generated
      obtain ⟨list, here, inner, inside, ⟨⟩⟩ := generated
      simp only [Node.walk, List.forall_mem_cons, List.forall_mem_append] at sound
      obtain ⟨inner', rfl, fused'⟩ := fused.forLoop_inv (Generate.quiet_expression here)
        (Generate.fresh_block inside)
      exact (computes_expression ready here sound.2.1).forLoop max
        (performs_block ready inside fused' sound.2.2)
        (Meaning.keeps_block _ body sound.1.1) (Meaning.keeps_block _ body sound.1.2)
  | .whileLoop _ condition body slot max, _, _, generated, fused, sound => by
      simp only [Generate.statement, bind_eq_ok] at generated
      obtain ⟨test, here, inner, inside, ⟨⟩⟩ := generated
      simp only [Node.walk, List.forall_mem_cons, List.forall_mem_append] at sound
      obtain ⟨inner', rfl, fused'⟩ := fused.whileLoop_inv (Generate.quiet_expression here)
        (Generate.fresh_block inside)
      exact (computes_expression ready here sound.2.1).whileLoop max
        (performs_block ready inside fused' sound.2.2)
        (Meaning.keeps_expression condition sound.1.1) (Meaning.keeps_block _ body sound.1.2)
  | .inclusion _ name bound, _, _, generated, fused, sound => by
      simp only [Generate.statement, bind_eq_ok] at generated
      obtain ⟨target, aimed, ⟨⟩⟩ := generated
      obtain rfl := fused.eq_of_quiet
        (quiet_append.mpr ⟨Generate.quiet_target aimed, by simp [Quiet]⟩)
      simp only [Generate.target, bind_eq_ok] at aimed
      obtain ⟨code, here, map, there, ⟨⟩⟩ := aimed
      simp only [Node.walk, List.forall_mem_cons, List.forall_mem_append] at sound
      obtain ⟨spared, mapped⟩ := computes_bindings ready there sound.2.2
      exact (computes_expression ready here sound.2.1).inclusion ready.serves ready.loads mapped
  | .wrapper _ name bound body, _, _, generated, fused, sound => by
      simp only [Generate.statement, bind_eq_ok] at generated
      obtain ⟨content, inside, target, aimed, ⟨⟩⟩ := generated
      obtain ⟨content', rfl, fused'⟩ := fused.wrapper_inv (Generate.quiet_target aimed)
        (Generate.fresh_block inside)
      simp only [Generate.target, bind_eq_ok] at aimed
      obtain ⟨code, here, map, there, ⟨⟩⟩ := aimed
      simp only [Node.walk, List.forall_mem_cons, List.forall_mem_append] at sound
      obtain ⟨spared, mapped⟩ := computes_bindings ready there sound.2.2
      exact (performs_block ready inside fused' sound.2.1.1).wrapper ready.serves ready.loads
        (computes_expression ready here sound.2.1.2) mapped
  | .int .., _, _, generated, fused, sound | .uint .., _, _, generated, fused, sound
  | .float .., _, _, generated, fused, sound | .string .., _, _, generated, fused, sound
  | .bool .., _, _, generated, fused, sound | .nil _, _, _, generated, fused, sound
  | .localVar .., _, _, generated, fused, sound | .symbol .., _, _, generated, fused, sound
  | .loopVar .., _, _, generated, fused, sound | .field .., _, _, generated, fused, sound
  | .index .., _, _, generated, fused, sound | .methodCall .., _, _, generated, fused, sound
  | .functionCall .., _, _, generated, fused, sound | .macroCall .., _, _, generated, fused, sound
  | .filter .., _, _, generated, fused, sound | .unary .., _, _, generated, fused, sound
  | .binary .., _, _, generated, fused, sound | .assign .., _, _, generated, fused, sound
  | .list .., _, _, generated, fused, sound | .range .., _, _, generated, fused, sound => by
      obtain rfl := fused.eq_of_quiet (Generate.quiet_expression generated)
      exact (computes_expression ready generated sound).discard

theorem performs_block (ready : scene.Ready render? template) :
    ∀ {nodes : List Node} {plain code : List Op}, Generate.block nodes = .ok plain →
      Fused plain code → (∀ inner ∈ Node.walkAll nodes, inner.Sound template.Declares) →
      scene.Performs code
        (Meaning.block scene.surroundings render? scene.context scene.rounds nodes)
  | [], _, _, rfl, fused, _ => by
      cases fused
      exact performs_nil
  | first :: rest, _, _, generated, fused, sound => by
      simp only [Generate.block, bind_eq_ok] at generated
      obtain ⟨plain, here, more, further, ⟨⟩⟩ := generated
      simp only [Node.walkAll, List.forall_mem_append] at sound
      obtain ⟨front, back, rfl, fused, fused'⟩ := fused.split (Generate.fresh_block further)
      exact (performs_statement ready here fused sound.1).append
        (performs_block ready further fused' sound.2)

end

theorem performs_emits (ready : scene.Ready render? template) {nodes : List Node}
    {plain code : List Op} (emits : Emits nodes plain) (fused : Fused plain code)
    (sound : ∀ inner ∈ Node.walkAll nodes, inner.Sound template.Declares) :
    scene.Performs code
      (Meaning.block scene.surroundings render? scene.context scene.rounds nodes) := by
  induction emits generalizing code with
  | nil =>
      cases fused
      exact performs_nil
  | declared place name parameters body further ih =>
      simp only [Node.walkAll, List.forall_mem_append] at sound
      exact ih fused sound.2
  | emitted generated further ih =>
      simp only [Node.walkAll, List.forall_mem_append] at sound
      obtain ⟨front, back, rfl, fused, fused'⟩ := fused.split further.fresh
      exact (performs_statement ready generated fused sound.1).append (ih fused' sound.2)

/-! ## Callees -/

/-- How callees are rendered where calls may be nested as much deeper as is said. -/
def calleesWithin (surroundings : Meaning.Surroundings σ) (rounds : Nat) :
    Nat → Option (Renderer σ)
  | 0 => none
  | deeper + 1 => some (Meaning.renderWithin surroundings rounds deeper)

theorem renderWithin_eq (surroundings : Meaning.Surroundings σ) (rounds deeper : Nat)
    (context : Meaning.Context) (nodes : List Node) :
    Meaning.renderWithin surroundings rounds deeper context nodes =
      Meaning.block surroundings (calleesWithin surroundings rounds deeper) context rounds
        nodes := by
  cases deeper with
  | zero => rfl
  | succ deeper => rfl

/-- A stream that is called does what rendering its nodes does, as deep as calls may go. -/
theorem serves_calleesWithin {deeper : Nat} {scene : Scene σ τ}
    (loads : Loads Built scene.related scene.surroundings.trees scene.loader)
    (room : scene.depth + deeper = scene.surroundings.limits.maxDepth) :
    scene.Serves (calleesWithin scene.surroundings scene.rounds deeper) := by
  induction deeper generalizing scene with
  | zero =>
      show scene.surroundings.limits.maxDepth < scene.depth + 1
      omega
  | succ deeper ih =>
      refine ⟨by omega, ?_⟩
      intro template activation pose world nodes code built streams stream
      obtain ⟨plain, code', emits, fused, same⟩ := streams.code
      obtain rfl := List.append_cancel_right same
      have ready : (scene.callee template activation pose world).Ready
          (calleesWithin scene.surroundings scene.rounds deeper) template := by
        refine ⟨ih loads ?_, ⟨built, rfl⟩, loads⟩
        show scene.depth + 1 + deeper = scene.surroundings.limits.maxDepth
        omega
      rw [renderWithin_eq]
      exact performs_emits ready emits fused streams.sound

end Stencil.Machine.Scene

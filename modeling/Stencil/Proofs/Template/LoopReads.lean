import Stencil.Proofs.Template.Positions

/-!
# Reading the state of a loop

Where no variable of that name hides it, the name `loop` stands for the state of the innermost loop
over a list. In a template that was parsed, all nodes of a loop's body that no inner loop is around
read the state of this loop by that name.
-/

namespace Stencil

namespace Node

mutual

/-- A node and those below it around which there is no other loop over a list: not the bodies of
such loops and of macros. -/
def sameLoop : Node → List Node
  | conditional place condition positive negative =>
      conditional place condition positive negative ::
        (walk condition ++ sameLoopAll positive ++ sameLoopAll negative)
  | forLoop place element slot source body most =>
      forLoop place element slot source body most :: walk source
  | whileLoop place condition body slot most =>
      whileLoop place condition body slot most :: (walk condition ++ sameLoopAll body)
  | macroDef place name parameters body => [macroDef place name parameters body]
  | wrapper place template bound body =>
      wrapper place template bound body ::
        (sameLoopAll body ++ walk template ++ walkBindings bound)
  | other => walk other

def sameLoopAll : List Node → List Node
  | [] => []
  | first :: rest => sameLoop first ++ sameLoopAll rest

end

/-- A node that reads the state of a loop reads that of the loop whose element is in the slot. -/
def ReadsLoop (slot : Nat) : Node → Prop
  | loopVar _ read => read = slot
  | symbol _ name => name ≠ "loop"
  | _ => True

/-- In its body, a loop over a list is the one whose state is read. -/
def OwnsBody : Node → Prop
  | forLoop _ _ slot _ body _ => ∀ inner ∈ sameLoopAll body, inner.ReadsLoop slot
  | _ => True

theorem sameLoopAll_append (nodes rest : List Node) :
    sameLoopAll (nodes ++ rest) = sameLoopAll nodes ++ sameLoopAll rest := by
  induction nodes with
  | nil => rfl
  | cons first nodes ih => rw [List.cons_append, sameLoopAll, sameLoopAll, ih, List.append_assoc]

end Node

namespace Template

open Node (forall_alone sameLoopAll walkAll walkBindings)

variable {tokens : List Token} {lexical after : Lexical} {node : Node} {nodes : List Node}
  {bound : List (String × Node)} {declared : List Declaration} {slot size : Nat}

section

variable (inside : lexical.loops.head? = some slot)

include inside

theorem readsLoop_of_readAt (read : Node.ReadAt tokens lexical node) :
    ∀ inner ∈ node.walk, inner.ReadsLoop slot := by
  intro inner below
  have refers := read inner below
  cases inner with
  | loopVar place slot' =>
      have same := refers.2.2
      rw [inside] at same
      exact (Option.some.inj same).symm
  | symbol place name =>
      intro called
      rw [refers.2.2 called] at inside
      cases inside
  | _ => trivial

theorem readsLoop_of_bindings
    (read : ∀ binding ∈ bound, Node.ReadAt tokens lexical binding.2) :
    ∀ inner ∈ walkBindings bound, inner.ReadsLoop slot :=
  Node.forall_walkBindings fun binding among => readsLoop_of_readAt inside (read binding among)

/-- What stands directly in the body of a loop reads the state of this loop. -/
theorem readsLoop_of_resolved (resolved : Resolved tokens lexical nodes after declared) :
    ∀ inner ∈ sameLoopAll nodes, inner.ReadsLoop slot := by
  induction resolved with
  | nil => exact nofun
  | append first _ ih ih' =>
      rw [Node.sameLoopAll_append]
      exact List.forall_mem_append.mpr ⟨ih inside, ih' (by rw [first.around.2, inside])⟩
  | text | macroDef => exact forall_alone trivial nofun
  | print _ read | discard _ read | forLoop _ _ read =>
      exact forall_alone trivial (readsLoop_of_readAt inside read)
  | assign _ _ _ read | declare _ _ _ read =>
      exact forall_alone trivial
        (List.forall_mem_cons.mpr ⟨trivial, readsLoop_of_readAt inside read⟩)
  | conditional _ read first _ ih ih' =>
      exact forall_alone trivial (List.forall_mem_append.mpr ⟨List.forall_mem_append.mpr
        ⟨readsLoop_of_readAt inside read, ih inside⟩, ih' (by rw [first.around.2, inside])⟩)
  | whileLoop _ _ read _ ih =>
      exact forall_alone trivial
        (List.forall_mem_append.mpr ⟨readsLoop_of_readAt inside read, ih inside⟩)
  | inclusion _ read bound =>
      exact forall_alone trivial (List.forall_mem_append.mpr
        ⟨readsLoop_of_readAt inside read, readsLoop_of_bindings inside bound⟩)
  | wrapper _ read bound _ ih =>
      exact forall_alone trivial (List.forall_mem_append.mpr ⟨List.forall_mem_append.mpr
        ⟨ih inside, readsLoop_of_readAt inside read⟩, readsLoop_of_bindings inside bound⟩)

end

theorem ownsBody_of_readAt (read : Node.ReadAt tokens lexical node) :
    ∀ inner ∈ node.walk, inner.OwnsBody := by
  intro inner below
  have refers := read inner below
  cases inner with
  | forLoop => exact refers.elim
  | _ => trivial

theorem ownsBody_of_bindings
    (read : ∀ binding ∈ bound, Node.ReadAt tokens lexical binding.2) :
    ∀ inner ∈ walkBindings bound, inner.OwnsBody :=
  Node.forall_walkBindings fun binding among => ownsBody_of_readAt (read binding among)

/-- Every loop over a list is the one whose state is read in its body. The induction on the size
enters the bodies of macros, which are frames of their own. -/
theorem ownsBody_of_resolved (resolved : Resolved tokens lexical nodes after declared)
    (tame : Tame tokens size nodes) : ∀ node ∈ walkAll nodes, node.OwnsBody := by
  induction size using Nat.strongRecOn generalizing lexical nodes after declared with
  | ind size enter =>
  induction resolved with
  | nil => exact nofun
  | append _ _ ih ih' =>
      have front := tame.part (Node.walkAll_append .. ▸ (List.prefix_append _ _).isInfix)
      have back := tame.part (Node.walkAll_append .. ▸ (List.suffix_append _ _).isInfix)
      rw [Node.walkAll_append]
      exact List.forall_mem_append.mpr ⟨ih front, ih' back⟩
  | text => exact forall_alone trivial nofun
  | print _ read | discard _ read => exact forall_alone trivial (ownsBody_of_readAt read)
  | assign _ _ _ read | declare _ _ _ read =>
      exact forall_alone trivial (List.forall_mem_cons.mpr ⟨trivial, ownsBody_of_readAt read⟩)
  | conditional _ read _ _ ih ih' =>
      have first := tame.below rfl
        ((List.suffix_append _ _).isInfix.trans (List.prefix_append _ _).isInfix)
      have second := tame.below rfl (List.suffix_append _ _).isInfix
      exact forall_alone trivial (List.forall_mem_append.mpr
        ⟨List.forall_mem_append.mpr ⟨ownsBody_of_readAt read, ih first⟩, ih' second⟩)
  | forLoop _ _ read body ih =>
      have inner := tame.below rfl (List.suffix_append _ _).isInfix
      exact forall_alone (readsLoop_of_resolved rfl body)
        (List.forall_mem_append.mpr ⟨ownsBody_of_readAt read, ih inner⟩)
  | whileLoop _ _ read _ ih =>
      have inner := tame.below rfl (List.suffix_append _ _).isInfix
      exact forall_alone trivial (List.forall_mem_append.mpr ⟨ownsBody_of_readAt read, ih inner⟩)
  | macroDef place name parameters body =>
      have inner := tame.below rfl List.infix_rfl
      have smaller : (walkAll body).length < size := by
        have short := tame.short
        simp only [walkAll, Node.walk, List.append_nil, List.length_cons] at short
        omega
      obtain ⟨declared, laid⟩ := tame.macros _ List.mem_cons_self _ rfl
      obtain ⟨after, more, -, resolved⟩ := laid.resolved
      exact forall_alone trivial (enter _ smaller resolved ⟨inner.macros, Nat.le_refl _⟩)
  | inclusion _ read bound =>
      exact forall_alone trivial
        (List.forall_mem_append.mpr ⟨ownsBody_of_readAt read, ownsBody_of_bindings bound⟩)
  | wrapper _ read bound _ ih =>
      have inner := tame.below rfl
        ((List.prefix_append _ _).trans (List.prefix_append _ _)).isInfix
      exact forall_alone trivial (List.forall_mem_append.mpr
        ⟨List.forall_mem_append.mpr ⟨ih inner, ownsBody_of_readAt read⟩,
          ownsBody_of_bindings bound⟩)

/-- In a template that was parsed, every loop over a list is the one whose state is read in its
body. -/
theorem ownsBody_of_parse {dialect : Token.Dialect} {name source : String}
    {template : Stencil.Template} (parsed : parse dialect name source = .ok template) :
    ∀ node ∈ template.walk, node.OwnsBody := by
  obtain ⟨_, _, _, _, resolved, macros⟩ := resolved_of_parse parsed
  exact ownsBody_of_resolved resolved ⟨macros, Nat.le_refl _⟩

end Template

end Stencil

import Stencil.Template.Node

/-!
# Parts of trees

Whatever stands below a node that stands below another one stands below that one too.
-/

namespace Stencil.Node

theorem walkAll_append (nodes rest : List Node) :
    walkAll (nodes ++ rest) = walkAll nodes ++ walkAll rest := by
  induction nodes with
  | nil => rfl
  | cons first nodes ih => rw [List.cons_append, walkAll, walkAll, ih, List.append_assoc]

theorem walk_subset_walkAll {node : Node} {nodes : List Node} (inside : node ∈ nodes) :
    node.walk ⊆ walkAll nodes := by
  induction inside with
  | head rest => exact List.subset_append_left _ _
  | tail first _ ih => exact List.subset_append_of_subset_right _ ih

theorem forall_walkAll {nodes : List Node} {holds : Node → Prop}
    (each : ∀ node ∈ nodes, ∀ inner ∈ node.walk, holds inner) :
    ∀ inner ∈ walkAll nodes, holds inner := by
  induction nodes with
  | nil => exact nofun
  | cons first rest ih =>
      obtain ⟨here, others⟩ := List.forall_mem_cons.mp each
      exact List.forall_mem_append.mpr ⟨here, ih others⟩

theorem forall_walkBindings {bound : List (String × Node)} {holds : Node → Prop}
    (each : ∀ binding ∈ bound, ∀ inner ∈ binding.2.walk, holds inner) :
    ∀ inner ∈ walkBindings bound, holds inner := by
  induction bound with
  | nil => exact nofun
  | cons first rest ih =>
      obtain ⟨here, others⟩ := List.forall_mem_cons.mp each
      exact List.forall_mem_append.mpr ⟨here, ih others⟩

/-- What holds of a node and of all below it, where the node stands alone. -/
theorem forall_alone {α : Type} {first : α} {below : List α} {holds : α → Prop}
    (own : holds first) (parts : ∀ inner ∈ below, holds inner) :
    ∀ inner ∈ first :: below ++ [], holds inner := by
  rw [List.append_nil]
  exact List.forall_mem_cons.mpr ⟨own, parts⟩

/-- Nodes among which are all that stand below one of them. -/
def Closed (nodes : List Node) : Prop :=
  ∀ inner ∈ nodes, ∀ deeper ∈ inner.walk, deeper ∈ nodes

namespace Closed

variable {node : Node} {nodes rest : List Node}

theorem append (closed : Closed nodes) (closed' : Closed rest) : Closed (nodes ++ rest) := by
  intro inner inside deeper below
  obtain inside | inside := List.mem_append.mp inside
  · exact List.mem_append_left _ (closed inner inside deeper below)
  · exact List.mem_append_right _ (closed' inner inside deeper below)

theorem leaf (walk : node.walk = [node]) : Closed node.walk := by
  rw [walk]
  intro inner inside deeper below
  obtain rfl := List.mem_singleton.mp inside
  rw [walk] at below
  exact below

theorem cons (walk : node.walk = node :: nodes) (closed : Closed nodes) : Closed node.walk := by
  rw [walk]
  intro inner inside deeper below
  obtain rfl | inside := List.mem_cons.mp inside
  · rw [walk] at below
    exact below
  · exact .tail _ (closed inner inside deeper below)

end Closed

mutual

theorem closed_walk : ∀ node : Node, Closed node.walk
  | .text .. | .int .. | .uint .. | .float .. | .string .. | .bool .. | .nil _ | .localVar ..
  | .symbol .. | .loopVar .. => .leaf rfl
  | .field _ operand _ | .filter _ operand _ | .unary _ _ operand | .assign _ _ _ operand
  | .print _ operand | .discard _ operand => .cons rfl (closed_walk operand)
  | .index _ left right | .binary _ _ left right | .range _ left right =>
      .cons rfl ((closed_walk left).append (closed_walk right))
  | .methodCall _ invocant _ arguments =>
      .cons rfl ((closed_walk invocant).append (closed_walkAll arguments))
  | .functionCall _ _ nodes | .macroCall _ _ nodes | .list _ nodes | .macroDef _ _ _ nodes =>
      .cons rfl (closed_walkAll nodes)
  | .conditional _ condition positive negative =>
      .cons rfl (((closed_walk condition).append (closed_walkAll positive)).append
        (closed_walkAll negative))
  | .forLoop _ _ _ operand body _ | .whileLoop _ operand body _ _ =>
      .cons rfl ((closed_walk operand).append (closed_walkAll body))
  | .inclusion _ template bound =>
      .cons rfl ((closed_walk template).append (closed_walkBindings bound))
  | .wrapper _ template bound body =>
      .cons rfl (((closed_walkAll body).append (closed_walk template)).append
        (closed_walkBindings bound))

theorem closed_walkAll : ∀ nodes : List Node, Closed (walkAll nodes)
  | [] => nofun
  | first :: rest => (closed_walk first).append (closed_walkAll rest)

theorem closed_walkBindings : ∀ bound : List (String × Node), Closed (walkBindings bound)
  | [] => nofun
  | (_, first) :: rest => (closed_walk first).append (closed_walkBindings rest)

end

end Stencil.Node

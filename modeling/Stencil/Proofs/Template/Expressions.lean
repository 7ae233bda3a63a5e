import Stencil.Proofs.Meaning.Slots
import Stencil.Proofs.Template.Descent
import Stencil.Proofs.Template.Still

/-!
# Parsed expressions

A parsed expression writes no slot, contains no loop, and calls only macros that were declared
before it.
-/

namespace Stencil

namespace Node

/-- What is asked of a single node where some macros are declared and loops have a ceiling. -/
def Proper (macros : List String) (max : Nat) : Node → Prop
  | .macroCall _ name _ => name ∈ macros
  | .forLoop _ _ slot _ body most =>
      most = max ∧ slot + 1 ∉ storedAll body ∧ slot + 2 ∉ storedAll body
  | .whileLoop _ condition body slot most =>
      most = max ∧ slot ∉ stored condition ∧ slot ∉ storedAll body
  | _ => True

/-- A node that writes no slot and is proper whatever the ceiling of loops. -/
structure Clean (macros : List String) (node : Node) : Prop where
  stored : node.stored = []
  proper : ∀ inner ∈ node.walk, ∀ max, inner.Proper macros max

structure CleanAll (macros : List String) (nodes : List Node) : Prop where
  stored : storedAll nodes = []
  proper : ∀ inner ∈ walkAll nodes, ∀ max, inner.Proper macros max

structure CleanBindings (macros : List String) (bound : List (String × Node)) : Prop where
  stored : storedBindings bound = []
  proper : ∀ inner ∈ walkBindings bound, ∀ max, inner.Proper macros max

section

variable {macros : List String} {node left right : Node} {nodes : List Node} {place : Place}
  {name : String}

/-- A node without parts. -/
theorem Clean.leaf (stored : node.stored = []) (walk : node.walk = [node])
    (proper : ∀ max, node.Proper macros max) : Clean macros node := by
  refine ⟨stored, ?_⟩
  rw [walk]
  exact List.forall_mem_singleton.mpr proper

/-- A node with one part. -/
theorem Clean.around (clean : Clean macros left) (stored : node.stored = left.stored)
    (walk : node.walk = node :: left.walk) (proper : ∀ max, node.Proper macros max) :
    Clean macros node := by
  refine ⟨stored.trans clean.stored, ?_⟩
  rw [walk]
  exact List.forall_mem_cons.mpr ⟨proper, clean.proper⟩

/-- A node with two parts. -/
theorem Clean.join (clean : Clean macros left) (clean' : Clean macros right)
    (stored : node.stored = left.stored ++ right.stored)
    (walk : node.walk = node :: (left.walk ++ right.walk))
    (proper : ∀ max, node.Proper macros max) : Clean macros node := by
  refine ⟨?_, ?_⟩
  · rw [stored, clean.stored, clean'.stored]
    rfl
  · rw [walk]
    exact List.forall_mem_cons.mpr
      ⟨proper, List.forall_mem_append.mpr ⟨clean.proper, clean'.proper⟩⟩

/-- A node with a list of parts. -/
theorem CleanAll.around (clean : CleanAll macros nodes) (stored : node.stored = storedAll nodes)
    (walk : node.walk = node :: walkAll nodes) (proper : ∀ max, node.Proper macros max) :
    Clean macros node := by
  refine ⟨stored.trans clean.stored, ?_⟩
  rw [walk]
  exact List.forall_mem_cons.mpr ⟨proper, clean.proper⟩

theorem CleanAll.nil : CleanAll macros [] :=
  ⟨rfl, nofun⟩

theorem CleanAll.cons (clean : Clean macros node) (rest : CleanAll macros nodes) :
    CleanAll macros (node :: nodes) := by
  refine ⟨?_, List.forall_mem_append.mpr ⟨clean.proper, rest.proper⟩⟩
  rw [storedAll, clean.stored, rest.stored]
  rfl

theorem CleanAll.of_forall (cleans : ∀ node ∈ nodes, Clean macros node) :
    CleanAll macros nodes := by
  induction nodes with
  | nil => exact .nil
  | cons first rest ih =>
      obtain ⟨clean, others⟩ := List.forall_mem_cons.mp cleans
      exact .cons clean (ih others)

theorem Clean.methodCall (clean : Clean macros node) (rest : CleanAll macros nodes) :
    Clean macros (.methodCall place node name nodes) := by
  refine ⟨?_, ?_⟩
  · rw [Node.stored, clean.stored, rest.stored]
    rfl
  · exact List.forall_mem_cons.mpr
      ⟨fun _ => trivial, List.forall_mem_append.mpr ⟨clean.proper, rest.proper⟩⟩

end

end Node

namespace Template

open Node (Clean CleanAll CleanBindings)

variable {macros : List String}

theorem clean_literal {place : Place} {source : String} {node : Node}
    (denoted : literal place source = .ok node) : Clean macros node := by
  obtain ⟨_, rfl⟩ | ⟨_, rfl⟩ | ⟨_, rfl⟩ := number_of_literal denoted
  all_goals exact .leaf rfl rfl fun _ => trivial

theorem clean_resolve (frame : Frame) (place : Place) (name : String) :
    Clean macros (frame.resolve place name) := by
  unfold Frame.resolve
  split
  · exact .leaf rfl rfl fun _ => trivial
  · split
    · exact .leaf rfl rfl fun _ => trivial
    · exact .leaf rfl rfl fun _ => trivial

/-- What the functions of the descent through expressions yield with an allowance. -/
structure Reads (macros : List String) (allowance : Nat) : Prop where
  expression : Still macros (expression allowance) (Clean macros)
  filters : ∀ operand, Clean macros operand →
    Still macros (filters allowance operand) (Clean macros)
  binary : ∀ level, Still macros (binary allowance level) (Clean macros)
  operators : ∀ level left, Clean macros left →
    Still macros (operators allowance level left) (Clean macros)
  unary : Still macros (unary allowance) (Clean macros)
  suffixes : ∀ operand, Clean macros operand →
    Still macros (suffixes allowance operand) (Clean macros)
  arguments : Still macros (arguments allowance) (CleanAll macros)
  moreArguments : Still macros (moreArguments allowance) (CleanAll macros)
  primary : Still macros (primary allowance) (Clean macros)
  listLiteral : ∀ place, Still macros (listLiteral allowance place) (Clean macros)
  moreItems : Still macros (moreItems allowance) (CleanAll macros)

theorem composes_clean (ground : Ground) : Composes ground (Clean ground.macros) where
  literal := clean_literal
  string _ _ := .leaf rfl rfl fun _ => trivial
  bool _ _ := .leaf rfl rfl fun _ => trivial
  nil _ := .leaf rfl rfl fun _ => trivial
  name _ _ := clean_resolve _ _ _
  field _ clean := clean.around rfl rfl fun _ => trivial
  index clean clean' := clean.join clean' rfl rfl fun _ => trivial
  methodCall _ clean cleans := clean.methodCall (.of_forall cleans)
  functionCall _ cleans := (CleanAll.of_forall cleans).around rfl rfl fun _ => trivial
  macroCall declared cleans := (CleanAll.of_forall cleans).around rfl rfl fun _ => declared
  filter _ clean := clean.around rfl rfl fun _ => trivial
  unary _ clean := clean.around rfl rfl fun _ => trivial
  binary _ clean clean' := clean.join clean' rfl rfl fun _ => trivial
  list cleans := (CleanAll.of_forall cleans).around rfl rfl fun _ => trivial
  range clean clean' := clean.join clean' rfl rfl fun _ => trivial

/-- The descent through expressions yields clean nodes, whatever its allowance. -/
theorem reads (allowance : Nat) : Reads macros allowance := by
  have steady (ground : Ground) (same : ground.macros = macros) :
      Descends ground (Clean macros) allowance :=
    same ▸ descends (composes_clean ground) allowance
  exact {
    expression := .of_steady fun ground same => (steady ground same).expression
    filters := fun operand clean =>
      .of_steady fun ground same => (steady ground same).filters operand clean
    binary := fun level => .of_steady fun ground same => (steady ground same).binary level
    operators := fun level left clean =>
      .of_steady fun ground same => (steady ground same).operators level left clean
    unary := .of_steady fun ground same => (steady ground same).unary
    suffixes := fun operand clean =>
      .of_steady fun ground same => (steady ground same).suffixes operand clean
    arguments := .of_steady fun ground same =>
      (steady ground same).arguments.mono fun _ => CleanAll.of_forall
    moreArguments := .of_steady fun ground same =>
      (steady ground same).moreArguments.mono fun _ => CleanAll.of_forall
    primary := .of_steady fun ground same => (steady ground same).primary
    listLiteral := fun place =>
      .of_steady fun ground same => (steady ground same).listLiteral place
    moreItems := .of_steady fun ground same =>
      (steady ground same).moreItems.mono fun _ => CleanAll.of_forall }

end Template

end Stencil

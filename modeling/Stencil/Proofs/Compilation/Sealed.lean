import Stencil.Proofs.Compilation.Discipline
import Stencil.Proofs.Compilation.Layout

/-!
# Statements inside generated code

The code of a statement stands in one piece in the code of the blocks around it. No jump from
outside leads into the piece but to its start, and a slot that is written by the statement alone is
not written around it.
-/

namespace Stencil

namespace Node

mutual

/-- A node and the statements of its blocks. -/
def statements : Node → List Node
  | .conditional place condition positive negative =>
      .conditional place condition positive negative ::
        (statementsAll positive ++ statementsAll negative)
  | .forLoop place element slot source body maxIterations =>
      .forLoop place element slot source body maxIterations :: statementsAll body
  | .whileLoop place condition body slot maxIterations =>
      .whileLoop place condition body slot maxIterations :: statementsAll body
  | .wrapper place template bindings body =>
      .wrapper place template bindings body :: statementsAll body
  | other => [other]

def statementsAll : List Node → List Node
  | [] => []
  | first :: rest => statements first ++ statementsAll rest

end

mutual

theorem stored_of_statements {inner : Node} {slot : Nat} (own : slot ∈ inner.stored) :
    ∀ {node : Node}, inner ∈ node.statements → slot ∈ node.stored
  | .conditional .., inside => by
      rcases List.mem_cons.mp inside with rfl | inside
      · exact own
      · rcases List.mem_append.mp inside with inside | inside
        · exact List.mem_append_left _
            (List.mem_append_right _ (storedAll_of_statements own inside))
        · exact List.mem_append_right _ (storedAll_of_statements own inside)
  | .forLoop .., inside => by
      rcases List.mem_cons.mp inside with rfl | inside
      · exact own
      · exact List.mem_append_right _ (storedAll_of_statements own inside)
  | .whileLoop .., inside => by
      rcases List.mem_cons.mp inside with rfl | inside
      · exact own
      · exact List.mem_append_right _ (storedAll_of_statements own inside)
  | .wrapper .., inside => by
      rcases List.mem_cons.mp inside with rfl | inside
      · exact own
      · exact List.mem_append_left _ (List.mem_append_left _ (storedAll_of_statements own inside))
  | .text .., inside | .int .., inside | .uint .., inside | .float .., inside | .string .., inside
  | .bool .., inside | .nil _, inside | .localVar .., inside | .symbol .., inside
  | .loopVar .., inside | .field .., inside | .index .., inside | .methodCall .., inside
  | .functionCall .., inside | .macroCall .., inside | .filter .., inside | .unary .., inside
  | .binary .., inside | .assign .., inside | .list .., inside | .range .., inside
  | .print .., inside | .discard .., inside | .macroDef .., inside | .inclusion .., inside => by
      obtain rfl := List.mem_singleton.mp inside
      exact own

theorem storedAll_of_statements {inner : Node} {slot : Nat} (own : slot ∈ inner.stored) :
    ∀ {nodes : List Node}, inner ∈ statementsAll nodes → slot ∈ storedAll nodes
  | first :: rest, inside => by
      rcases List.mem_append.mp inside with inside | inside
      · exact List.mem_append_left _ (stored_of_statements own inside)
      · exact List.mem_append_right _ (storedAll_of_statements own inside)

end

mutual

theorem walk_of_statements {inner : Node} :
    ∀ {node : Node}, inner ∈ node.statements → inner ∈ node.walk
  | .conditional .., inside => by
      rcases List.mem_cons.mp inside with rfl | inside
      · exact List.mem_cons_self
      · rcases List.mem_append.mp inside with inside | inside
        · exact .tail _ (List.mem_append_left _ (List.mem_append_right _
            (walkAll_of_statements inside)))
        · exact .tail _ (List.mem_append_right _ (walkAll_of_statements inside))
  | .forLoop .., inside | .whileLoop .., inside => by
      rcases List.mem_cons.mp inside with rfl | inside
      · exact List.mem_cons_self
      · exact .tail _ (List.mem_append_right _ (walkAll_of_statements inside))
  | .wrapper .., inside => by
      rcases List.mem_cons.mp inside with rfl | inside
      · exact List.mem_cons_self
      · exact .tail _ (List.mem_append_left _ (List.mem_append_left _
          (walkAll_of_statements inside)))
  | .text .., inside | .int .., inside | .uint .., inside | .float .., inside | .string .., inside
  | .bool .., inside | .nil _, inside | .localVar .., inside | .symbol .., inside
  | .loopVar .., inside | .field .., inside | .index .., inside | .methodCall .., inside
  | .functionCall .., inside | .macroCall .., inside | .filter .., inside | .unary .., inside
  | .binary .., inside | .assign .., inside | .list .., inside | .range .., inside
  | .print .., inside | .discard .., inside | .macroDef .., inside | .inclusion .., inside => by
      obtain rfl := List.mem_singleton.mp inside
      simp [walk]

theorem walkAll_of_statements {inner : Node} :
    ∀ {nodes : List Node}, inner ∈ statementsAll nodes → inner ∈ walkAll nodes
  | first :: rest, inside => by
      rcases List.mem_append.mp inside with inside | inside
      · exact List.mem_append_left _ (walk_of_statements inside)
      · exact List.mem_append_right _ (walkAll_of_statements inside)

end

end Node

/-! ## Sealed pieces -/

/-- A piece of code that is entered at its start only, between code that does not write a slot. -/
structure Seals (slot : Nat) (before part after : List Op) : Prop where
  front : Jumps (fun target => target ≤ before.length ∨ before.length + part.length ≤ target) before
  back : Jumps (fun target => part.length + target ≤ 0 ∨ 0 ≤ target) after
  spares : ∀ op ∈ before ++ after, slot ∉ op.writes

section

variable {slot : Nat} {before part after front back : List Op} {slots slots' : List Nat}

theorem Confined.spares {code : List Op} (confined : Confined slots code) (absent : slot ∉ slots) :
    ∀ op ∈ code, slot ∉ op.writes :=
  fun op inside written => absent (confined.writes op inside slot written)

theorem confined_nil : Confined [] [] :=
  Idle.confined (by simp [Idle])

/-- Code around that stays in itself. -/
theorem seals_of_confined (confined : Confined slots before) (confined' : Confined slots' after)
    (absent : slot ∉ slots) (absent' : slot ∉ slots') : Seals slot before part after where
  front := confined.jumps.mono fun target => by omega
  back := confined'.jumps.mono fun target => by omega
  spares := List.forall_mem_append.mpr ⟨confined.spares absent, confined'.spares absent'⟩

theorem seals_whole : Seals slot [] part [] :=
  ⟨jumps_nil, jumps_nil, List.forall_mem_nil _⟩

/-- A piece of a sealed piece is sealed. -/
theorem Seals.around (inner : Seals slot before part after)
    (outer : Seals slot front (before ++ part ++ after) back) :
    Seals slot (front ++ before) part (after ++ back) := by
  have outward := outer.front
  have outward' := outer.back
  simp only [List.length_append, Nat.cast_add] at outward outward'
  constructor
  · simp only [jumps_append, List.length_append, Nat.cast_add]
    constructor
    · exact outward.mono fun target => by omega
    · exact inner.front.mono fun target => by omega
  · rw [jumps_append]
    constructor
    · exact inner.back
    · exact outward'.mono fun target => by omega
  · have inward := inner.spares
    have outside := outer.spares
    simp only [List.forall_mem_append] at inward outside ⊢
    exact ⟨⟨outside.1, inward.1⟩, inward.2, outside.2⟩

end

/-! ## Statements in their blocks -/

section

variable {slot : Nat} {inner : Node}

/-- The code of a statement is sealed in some code. -/
def SealedIn (slot : Nat) (inner : Node) (code : List Op) : Prop :=
  ∃ before part after, code = before ++ part ++ after ∧ inner.HasCode part ∧
    Seals slot before part after

theorem SealedIn.around {front code back : List Op} (sealed : SealedIn slot inner code)
    (outer : Seals slot front code back) : SealedIn slot inner (front ++ code ++ back) := by
  obtain ⟨before, part, after, rfl, has, seals⟩ := sealed
  exact ⟨front ++ before, part, after ++ back, by simp, has, seals.around outer⟩

theorem sealedIn_self {node : Node} {plain code : List Op}
    (generated : Generate.statement node = .ok plain) (fused : Fused plain code) :
    SealedIn slot node code :=
  ⟨[], code, [], by simp, ⟨plain, .inl generated, fused⟩, seals_whole⟩

/-- What is written once, and on the left, is not written on the right. -/
theorem absent_of_left {left right : List Nat} (once : (left ++ right).count slot = 1)
    (here : slot ∈ left) : left.count slot = 1 ∧ slot ∉ right := by
  have some := List.count_pos_iff.mpr here
  rw [List.count_append] at once
  exact ⟨by omega, List.count_eq_zero.mp (by omega)⟩

theorem absent_of_right {left right : List Nat} (once : (left ++ right).count slot = 1)
    (here : slot ∈ right) : slot ∉ left ∧ right.count slot = 1 := by
  have some := List.count_pos_iff.mpr here
  rw [List.count_append] at once
  exact ⟨List.count_eq_zero.mp (by omega), by omega⟩

section Schemes

open Generate

variable {condition positive negative source body target : List Op} {slots slots' : List Nat}

theorem SealedIn.inPositive (sealed : SealedIn slot inner positive)
    (confined : Confined slots condition) (confined' : Confined slots' negative)
    (absent : slot ∉ slots) (absent' : slot ∉ slots') (single : Bool) :
    SealedIn slot inner (branches condition positive negative single) := by
  have test := confined.jumps
  cases single with
  | true =>
      rw [branches, if_pos rfl, ← List.append_nil (_ ++ positive)]
      refine sealed.around ⟨?_, jumps_nil, ?_⟩
      · simp only [jumps_append, jumps_cons, jumps_nil, Op.jump?, List.length_append,
          List.length_singleton, Option.some.injEq, forall_eq', and_true]
        exact ⟨test.mono fun target => by omega, by omega⟩
      · simp only [List.append_nil, List.forall_mem_append, List.forall_mem_singleton]
        exact ⟨confined.spares absent, List.not_mem_nil⟩
  | false =>
      rw [branches, if_neg Bool.false_ne_true, List.append_assoc _ _ negative]
      refine sealed.around ⟨?_, ?_, ?_⟩
      · simp only [jumps_append, jumps_cons, jumps_nil, Op.jump?, List.length_append,
          List.length_singleton, Option.some.injEq, forall_eq', and_true]
        exact ⟨test.mono fun target => by omega, by omega⟩
      · simp only [List.singleton_append, jumps_cons, Op.jump?, Option.some.injEq, forall_eq']
        exact ⟨by omega, confined'.jumps.mono fun target => by omega⟩
      · simp only [List.forall_mem_append, List.forall_mem_singleton]
        exact ⟨⟨confined.spares absent, List.not_mem_nil⟩, List.not_mem_nil,
          confined'.spares absent'⟩

theorem SealedIn.inNegative (sealed : SealedIn slot inner negative)
    (confined : Confined slots condition) (confined' : Confined slots' positive)
    (absent : slot ∉ slots) (absent' : slot ∉ slots') :
    SealedIn slot inner (branches condition positive negative false) := by
  have test := confined.jumps
  have first := confined'.jumps
  rw [branches, if_neg Bool.false_ne_true, ← List.append_nil (_ ++ negative)]
  refine sealed.around ⟨?_, jumps_nil, ?_⟩
  · simp only [jumps_append, jumps_cons, jumps_nil, Op.jump?, List.length_append,
      List.length_singleton, Option.some.injEq, forall_eq', and_true]
    refine ⟨⟨⟨?_, by omega⟩, ?_⟩, by omega⟩
    · exact test.mono fun target => by omega
    · exact first.mono fun target => by omega
  · simp only [List.append_nil, List.forall_mem_append, List.forall_mem_singleton]
    exact ⟨⟨⟨confined.spares absent, List.not_mem_nil⟩, confined'.spares absent'⟩, List.not_mem_nil⟩

theorem SealedIn.inForLoop {start max : Nat} (sealed : SealedIn slot inner body)
    (confined : Confined slots source) (absent : slot ∉ slots)
    (apart : slot ∉ [start, start + 1, start + 2]) :
    SealedIn slot inner (Generate.forLoop source body start max) := by
  refine sealed.around ⟨?_, ?_, ?_⟩
  · simp only [jumps_append, jumps_cons, jumps_nil, Op.jump?, List.length_append,
      List.length_cons, List.length_nil, Option.some.injEq, reduceCtorEq, false_implies,
      implies_true, forall_eq', true_and, and_true]
    exact ⟨confined.jumps.mono fun target => by omega, by omega⟩
  · simp only [jumps_cons, jumps_nil, Op.jump?, Option.some.injEq, forall_eq', and_true]
    omega
  · have further : slot ∉ [start, start + 1] := by
      simp only [List.mem_cons, List.not_mem_nil, or_false, not_or] at apart ⊢
      exact ⟨apart.1, apart.2.1⟩
    simp only [List.forall_mem_append, List.forall_mem_cons]
    exact ⟨⟨confined.spares absent, apart, further, List.forall_mem_nil _⟩, List.not_mem_nil,
      List.forall_mem_nil _⟩

theorem SealedIn.inWhileLoop {start max : Nat} (sealed : SealedIn slot inner body)
    (confined : Confined slots condition) (absent : slot ∉ slots) (apart : slot ≠ start) :
    SealedIn slot inner (Generate.whileLoop condition body start max) := by
  refine sealed.around ⟨?_, ?_, ?_⟩
  · simp only [jumps_append, jumps_cons, jumps_nil, Op.jump?, List.length_append,
      List.length_cons, List.length_nil, Option.some.injEq, reduceCtorEq, false_implies,
      implies_true, forall_eq', true_and, and_true]
    exact ⟨confined.jumps.mono fun target => by omega, by omega, by omega⟩
  · simp only [jumps_cons, jumps_nil, Op.jump?, Option.some.injEq, forall_eq', and_true]
    omega
  · have own : slot ∉ [start] := List.mem_singleton.not.mpr apart
    simp only [List.forall_mem_append, List.forall_mem_cons]
    exact ⟨⟨⟨⟨List.not_mem_nil, own, List.forall_mem_nil _⟩, confined.spares absent⟩,
      List.not_mem_nil, own, List.not_mem_nil, List.forall_mem_nil _⟩, List.not_mem_nil,
      List.forall_mem_nil _⟩

theorem SealedIn.inWrapper (sealed : SealedIn slot inner body) (confined : Confined slots target)
    (absent : slot ∉ slots) :
    SealedIn slot inner
      ([Op.beginCapture] ++ body ++ [Op.endCapture, .push] ++ target ++ [Op.wrapper]) := by
  have back : Confined slots ([Op.endCapture, .push] ++ target ++ [Op.wrapper]) :=
    .append (.append (Idle.confined (by simp [Idle, Op.jump?, Op.writes])) confined)
      (.idle rfl rfl)
  have front : Confined [] [Op.beginCapture] := .idle rfl rfl
  have sealed := sealed.around (seals_of_confined front back (List.not_mem_nil) absent)
  simpa only [List.append_assoc] using sealed

end Schemes

mutual

/-- The code of a statement is sealed in that of a node around it, for a slot that only the
statement writes. -/
theorem sealed_statement (own : slot ∈ inner.stored) :
    ∀ {node : Node} {plain code : List Op}, Generate.statement node = .ok plain →
      Fused plain code → inner ∈ node.statements → node.stored.count slot = 1 →
      SealedIn slot inner code
  | .conditional _ condition positive negative, _, code, generated, fused, inside, once => by
      rcases List.mem_cons.mp inside with rfl | inside
      · exact sealedIn_self generated fused
      simp only [Generate.statement, bind_eq_ok] at generated
      obtain ⟨test, here, first, yes, second, no, ⟨⟩⟩ := generated
      have confined := Generate.confined_expression here
      obtain ⟨first', second', rfl, fused', fused''⟩ := fused.branches_inv
        (Generate.quiet_expression here) (Generate.fresh_block yes) (Generate.fresh_block no)
      rw [Node.stored] at once
      rcases List.mem_append.mp inside with inside | inside
      · obtain ⟨once, absent'⟩ := absent_of_left once
          (List.mem_append_right _ (Node.storedAll_of_statements own inside))
        obtain ⟨absent, once⟩ := absent_of_right once (Node.storedAll_of_statements own inside)
        exact (sealed_block own yes fused' inside once).inPositive confined
          (fused''.confined (Generate.confined_block no)) absent absent' _
      · obtain ⟨absent, once⟩ := absent_of_right once (Node.storedAll_of_statements own inside)
        simp only [List.mem_append, not_or] at absent
        have some : negative.isEmpty = false := by
          cases negative with
          | nil => cases inside
          | cons _ _ => rfl
        rw [some]
        exact (sealed_block own no fused'' inside once).inNegative confined
          (fused'.confined (Generate.confined_block yes)) absent.1 absent.2
  | .forLoop _ _ start _ body _, _, code, generated, fused, inside, once => by
      rcases List.mem_cons.mp inside with rfl | inside
      · exact sealedIn_self generated fused
      simp only [Generate.statement, bind_eq_ok] at generated
      obtain ⟨list, here, body', inner', ⟨⟩⟩ := generated
      obtain ⟨body'', rfl, fused'⟩ := fused.forLoop_inv (Generate.quiet_expression here)
        (Generate.fresh_block inner')
      rw [Node.stored] at once
      obtain ⟨absent, once⟩ := absent_of_right once (Node.storedAll_of_statements own inside)
      rw [List.mem_append, not_or] at absent
      exact (sealed_block own inner' fused' inside once).inForLoop
        (Generate.confined_expression here) absent.2 absent.1
  | .whileLoop _ _ body start _, _, code, generated, fused, inside, once => by
      rcases List.mem_cons.mp inside with rfl | inside
      · exact sealedIn_self generated fused
      simp only [Generate.statement, bind_eq_ok] at generated
      obtain ⟨test, here, body', inner', ⟨⟩⟩ := generated
      obtain ⟨body'', rfl, fused'⟩ := fused.whileLoop_inv (Generate.quiet_expression here)
        (Generate.fresh_block inner')
      rw [Node.stored] at once
      obtain ⟨absent, once⟩ := absent_of_right once (Node.storedAll_of_statements own inside)
      rw [List.mem_cons, not_or] at absent
      exact (sealed_block own inner' fused' inside once).inWhileLoop
        (Generate.confined_expression here) absent.2 absent.1
  | .wrapper _ _ _ body, _, code, generated, fused, inside, once => by
      rcases List.mem_cons.mp inside with rfl | inside
      · exact sealedIn_self generated fused
      simp only [Generate.statement, bind_eq_ok] at generated
      obtain ⟨content, inner', name, aimed, ⟨⟩⟩ := generated
      obtain ⟨body', rfl, fused'⟩ := fused.wrapper_inv (Generate.quiet_target aimed)
        (Generate.fresh_block inner')
      rw [Node.stored, List.append_assoc] at once
      obtain ⟨once, absent⟩ := absent_of_left once (Node.storedAll_of_statements own inside)
      exact (sealed_block own inner' fused' inside once).inWrapper (Generate.confined_target aimed)
        absent
  | .text .., _, _, generated, fused, inside, _ | .int .., _, _, generated, fused, inside, _
  | .uint .., _, _, generated, fused, inside, _ | .float .., _, _, generated, fused, inside, _
  | .string .., _, _, generated, fused, inside, _ | .bool .., _, _, generated, fused, inside, _
  | .nil _, _, _, generated, fused, inside, _ | .localVar .., _, _, generated, fused, inside, _
  | .symbol .., _, _, generated, fused, inside, _ | .loopVar .., _, _, generated, fused, inside, _
  | .field .., _, _, generated, fused, inside, _ | .index .., _, _, generated, fused, inside, _
  | .methodCall .., _, _, generated, fused, inside, _
  | .functionCall .., _, _, generated, fused, inside, _
  | .macroCall .., _, _, generated, fused, inside, _
  | .filter .., _, _, generated, fused, inside, _ | .unary .., _, _, generated, fused, inside, _
  | .binary .., _, _, generated, fused, inside, _ | .assign .., _, _, generated, fused, inside, _
  | .list .., _, _, generated, fused, inside, _ | .range .., _, _, generated, fused, inside, _
  | .print .., _, _, generated, fused, inside, _ | .discard .., _, _, generated, fused, inside, _
  | .macroDef .., _, _, generated, fused, inside, _
  | .inclusion .., _, _, generated, fused, inside, _ => by
      obtain rfl := List.mem_singleton.mp inside
      exact sealedIn_self generated fused

theorem sealed_block (own : slot ∈ inner.stored) :
    ∀ {nodes : List Node} {plain code : List Op}, Generate.block nodes = .ok plain →
      Fused plain code → inner ∈ Node.statementsAll nodes →
      (Node.storedAll nodes).count slot = 1 → SealedIn slot inner code
  | first :: rest, _, _, generated, fused, inside, once => by
      simp only [Generate.block, bind_eq_ok] at generated
      obtain ⟨code, here, more, further, ⟨⟩⟩ := generated
      obtain ⟨front, back, rfl, fused, fused'⟩ := fused.split (Generate.fresh_block further)
      rw [Node.storedAll] at once
      rcases List.mem_append.mp inside with inside | inside
      · obtain ⟨once, absent⟩ := absent_of_left once (Node.stored_of_statements own inside)
        have sealed := (sealed_statement own here fused inside once).around
          (seals_of_confined confined_nil
            (fused'.confined (Generate.confined_block further)) List.not_mem_nil absent)
        exact sealed
      · obtain ⟨absent, once⟩ := absent_of_right once (Node.storedAll_of_statements own inside)
        have sealed := (sealed_block own further fused' inside once).around
          (seals_of_confined (fused.confined (Generate.confined_statement here))
            confined_nil absent List.not_mem_nil)
        rwa [List.append_nil] at sealed

end

end

end Stencil

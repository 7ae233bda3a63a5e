import Mathlib
import Stencil.Proofs.Compilation.Built
import Stencil.Proofs.Machine.Effects

/-!
# The layout of generated code

The jumps of a node stay in the code of the node, and it writes the slots of the node only. So the
code of a statement is entered at its start, wherever it stands in a block, a branch or a loop.
-/

namespace Stencil

/-! ## Jumps of a piece of code -/

/-- The places that the jumps of a piece of code lead to, counted from its start, are of a kind. -/
def Jumps (kind : Int → Prop) (code : List Op) : Prop :=
  ∀ (place : Nat) (op : Op) (offset : Int), code[place]? = some op → op.jump? = some offset →
    kind (place + offset)

section

variable {kind other : Int → Prop} {first second code code' : List Op} {op : Op}
  {slots slots' : List Nat}

theorem Jumps.mono (jumps : Jumps kind code) (weaker : ∀ target, kind target → other target) :
    Jumps other code :=
  fun place op offset found jumping => weaker _ (jumps place op offset found jumping)

theorem jumps_nil : Jumps kind [] :=
  nofun

theorem jumps_cons : Jumps kind (op :: code) ↔
    (∀ offset, op.jump? = some offset → kind offset) ∧
      Jumps (fun target => kind (1 + target)) code := by
  constructor
  · intro jumps
    constructor
    · intro offset jumping
      simpa using jumps 0 op offset rfl jumping
    · intro place other offset found jumping
      have here := jumps (place + 1) other offset found jumping
      rwa [Nat.cast_add, Nat.cast_one, add_comm (place : Int) 1, add_assoc] at here
  · rintro ⟨here, rest⟩ place other offset found jumping
    cases place with
    | zero =>
        cases found
        simpa using here offset jumping
    | succ place =>
        have further := rest place other offset found jumping
        dsimp only at further
        rwa [← add_assoc, add_comm 1 (place : Int), ← Nat.cast_one, ← Nat.cast_add] at further

theorem jumps_append : Jumps kind (first ++ second) ↔
    Jumps kind first ∧ Jumps (fun target => kind (first.length + target)) second := by
  induction first generalizing kind with
  | nil => simp [jumps_nil]
  | cons op rest ih =>
      rw [List.cons_append, jumps_cons, jumps_cons, ih, and_assoc]
      simp only [List.length_cons, Nat.cast_add, Nat.cast_one, add_left_comm, add_assoc]

/-! ## Confined code -/

/-- Code whose jumps stay behind its start and lead to its end at most, and that writes some slots
only. -/
structure Confined (slots : List Nat) (code : List Op) : Prop where
  jumps : Jumps (fun target => 0 < target ∧ target ≤ code.length) code
  writes : ∀ op ∈ code, ∀ slot ∈ op.writes, slot ∈ slots

/-- Instructions that neither jump nor write. -/
def Idle (code : List Op) : Prop :=
  ∀ op ∈ code, op.jump? = none ∧ op.writes = []

theorem Idle.confined (idle : Idle code) : Confined slots code := by
  constructor
  · intro place op offset found jumping
    rw [(idle op (List.mem_of_getElem? found)).1] at jumping
    cases jumping
  · intro op inside slot written
    rw [(idle op inside).2] at written
    cases written

namespace Confined

theorem idle (still : op.jump? = none) (mild : op.writes = []) : Confined slots [op] :=
  Idle.confined (List.forall_mem_singleton.mpr ⟨still, mild⟩)

theorem mono (confined : Confined slots code) (more : ∀ slot ∈ slots, slot ∈ slots') :
    Confined slots' code :=
  ⟨confined.jumps, fun op inside slot written => more slot (confined.writes op inside slot written)⟩

theorem left (confined : Confined slots code) : Confined (slots ++ slots') code :=
  confined.mono fun _ => List.mem_append_left _

theorem right (confined : Confined slots' code) : Confined (slots ++ slots') code :=
  confined.mono fun _ => List.mem_append_right _

/-- The jumps of a piece that stands somewhere in a longer one. -/
theorem within (confined : Confined slots code) {start size : Int} (begins : 0 ≤ start)
    (ends : start + code.length ≤ size) :
    Jumps (fun target => 0 < start + target ∧ start + target ≤ size) code :=
  confined.jumps.mono fun target => by omega

theorem append (confined : Confined slots first) (confined' : Confined slots second) :
    Confined slots (first ++ second) := by
  constructor
  · rw [jumps_append]
    constructor
    · exact confined.jumps.mono fun target => by simp only [List.length_append]; omega
    · exact confined'.within (by omega) (by simp)
  · exact List.forall_mem_append.mpr ⟨confined.writes, confined'.writes⟩

end Confined

/-- Fusing prints changes neither jumps nor writes. -/
theorem Fused.jumps_iff (fused : Fused code code') : Jumps kind code' ↔ Jumps kind code := by
  induction fused generalizing kind with
  | nil => rfl
  | keep op _ ih => rw [jumps_cons, jumps_cons, ih]
  | fuse text _ ih =>
      rw [jumps_cons, jumps_cons, jumps_cons, jumps_cons, ih]
      simp [Op.jump?]

theorem Fused.writes_of_mem (fused : Fused code code') :
    ∀ op' ∈ code', ∀ slot ∈ op'.writes, ∃ op ∈ code, slot ∈ op.writes := by
  induction fused with
  | nil => nofun
  | keep op _ ih =>
      rintro op' inside slot written
      rcases List.mem_cons.mp inside with rfl | inside
      · exact ⟨op', List.mem_cons_self, written⟩
      · obtain ⟨op, inside, written⟩ := ih op' inside slot written
        exact ⟨op, List.mem_cons_of_mem _ inside, written⟩
  | fuse text _ ih =>
      rintro op' inside slot written
      rcases List.mem_cons.mp inside with rfl | inside
      · cases written
      · rcases List.mem_cons.mp inside with rfl | inside
        · cases written
        · obtain ⟨op, inside, written⟩ := ih op' inside slot written
          exact ⟨op, List.mem_cons_of_mem _ (List.mem_cons_of_mem _ inside), written⟩

theorem Fused.confined (fused : Fused code code') (confined : Confined slots code) :
    Confined slots code' := by
  constructor
  · rw [fused.jumps_iff, fused.length_eq]
    exact confined.jumps
  · intro op' inside slot written
    obtain ⟨op, inside, written⟩ := fused.writes_of_mem op' inside slot written
    exact confined.writes op inside slot written

end

/-! ## Generated code -/

namespace Generate

open Node (stored storedAll storedBindings)

section

variable {left right condition positive negative source body : List Op} {slots : List Nat}

theorem confined_operands (confined : Confined slots left) (confined' : Confined slots right)
    (spared : Bool) : Confined slots (operands left right spared) := by
  cases spared with
  | true => exact .append (.append confined (.idle rfl rfl)) confined'
  | false => exact .append (.append (.append confined (.idle rfl rfl)) confined') (.idle rfl rfl)

/-- A jump over the right operand. -/
theorem confined_shortcut {op : Op} (confined : Confined slots left)
    (confined' : Confined slots right) (jumps : op.jump? = some (right.length + 1))
    (writes : op.writes = []) : Confined slots (left ++ [op] ++ right) := by
  constructor
  · rw [jumps_append, jumps_append, jumps_cons]
    simp only [List.length_append, List.length_cons, List.length_nil]
    refine ⟨⟨?_, ?_, jumps_nil⟩, ?_⟩
    · exact confined.jumps.mono fun target => by omega
    · intro offset jumping
      rw [jumps] at jumping
      cases jumping
      omega
    · exact confined'.jumps.mono fun target => by omega
  · intro op' inside slot written
    simp only [List.mem_append, List.mem_singleton] at inside
    rcases inside with (inside | rfl) | inside
    · exact confined.writes op' inside slot written
    · rw [writes] at written
      cases written
    · exact confined'.writes op' inside slot written

theorem confined_binary (op : Node.BinaryOp) (confined : Confined slots left)
    (confined' : Confined slots right) (spared : Bool) :
    Confined slots (binary op left right spared) := by
  have both := confined_operands confined confined' spared
  cases op with
  | and => exact confined_shortcut confined confined' rfl rfl
  | or => exact confined_shortcut confined confined' rfl rfl
  | _ => exact .append both (.idle rfl rfl)

theorem confined_branches {single : Bool} (confined : Confined slots condition)
    (confined' : Confined slots positive) (confined'' : Confined slots negative) :
    Confined slots (branches condition positive negative single) := by
  cases single with
  | true => exact confined_shortcut confined confined' rfl rfl
  | false =>
      rw [branches, if_neg Bool.false_ne_true]
      constructor
      · simp only [jumps_append, jumps_cons, jumps_nil, Op.jump?, List.length_append,
          List.length_cons, List.length_nil, Option.some.injEq, forall_eq', and_true]
        refine ⟨⟨⟨⟨?_, by omega⟩, ?_⟩, by omega⟩, ?_⟩
        · exact confined.jumps.mono fun target => by omega
        · exact confined'.jumps.mono fun target => by omega
        · exact confined''.jumps.mono fun target => by omega
      · simp only [List.forall_mem_append, List.forall_mem_singleton, Op.writes, List.not_mem_nil,
          false_implies, implies_true, and_true]
        exact ⟨⟨confined.writes, confined'.writes⟩, confined''.writes⟩

theorem confined_forLoop {slot max : Nat} (confined : Confined slots source)
    (confined' : Confined slots body) (own : ∀ other ∈ [slot, slot + 1, slot + 2], other ∈ slots) :
    Confined slots (forLoop source body slot max) := by
  simp only [List.forall_mem_cons, List.not_mem_nil, false_implies, implies_true,
    and_true] at own
  constructor
  · simp only [forLoop, jumps_append, jumps_cons, jumps_nil, Op.jump?, List.length_append,
      List.length_cons, List.length_nil, Option.some.injEq, reduceCtorEq, false_implies,
      implies_true, forall_eq', true_and, and_true]
    refine ⟨⟨⟨?_, by omega⟩, ?_⟩, by omega⟩
    · exact confined.jumps.mono fun target => by omega
    · exact confined'.jumps.mono fun target => by omega
  · simp only [forLoop, List.forall_mem_append, List.forall_mem_cons, Op.writes, List.not_mem_nil,
      false_implies, implies_true, and_true]
    exact ⟨⟨confined.writes, own, own.1, own.2.1⟩, confined'.writes⟩

theorem confined_whileLoop {slot max : Nat} (confined : Confined slots condition)
    (confined' : Confined slots body) (own : slot ∈ slots) :
    Confined slots (whileLoop condition body slot max) := by
  constructor
  · simp only [whileLoop, jumps_append, jumps_cons, jumps_nil, Op.jump?, List.length_append,
      List.length_cons, List.length_nil, Option.some.injEq, reduceCtorEq, false_implies,
      implies_true, forall_eq', true_and, and_true]
    refine ⟨⟨⟨?_, by omega, by omega⟩, ?_⟩, by omega⟩
    · exact confined.jumps.mono fun target => by omega
    · exact confined'.jumps.mono fun target => by omega
  · simp only [whileLoop, List.forall_mem_append, List.forall_mem_cons, Op.writes, List.not_mem_nil,
      false_implies, implies_true, and_true, true_and]
    exact ⟨⟨⟨own, confined.writes⟩, own⟩, confined'.writes⟩

theorem confined_filterOp (name : String) : Confined slots [filterOp name] := by
  unfold filterOp
  split <;> exact .idle rfl rfl

theorem confined_unaryOp (op : Node.UnaryOp) : Confined slots [unaryOp op] := by
  cases op <;> exact .idle rfl rfl

end

mutual

/-- The code of an expression stays in itself, and writes what the expression does. -/
theorem confined_expression : ∀ {node : Node} {code : List Op}, expression node = .ok code →
    Confined (stored node) code
  | .int .., _, rfl | .uint .., _, rfl | .float .., _, rfl | .string .., _, rfl | .bool .., _, rfl
  | .nil _, _, rfl | .localVar .., _, rfl | .symbol .., _, rfl | .loopVar .., _, rfl =>
      .idle rfl rfl
  | .field .., _, generated => by
      simp only [expression, bind_eq_ok] at generated
      obtain ⟨first, here, ⟨⟩⟩ := generated
      exact (confined_expression here).append (.idle rfl rfl)
  | .index .., _, generated => by
      simp only [expression, bind_eq_ok] at generated
      obtain ⟨first, here, second, there, ⟨⟩⟩ := generated
      refine .append (.append (.append (confined_expression here).left (.idle rfl rfl))
        (confined_expression there).right) ?_
      exact Idle.confined (by simp [Idle, Op.jump?, Op.writes])
  | .methodCall .., _, generated => by
      simp only [expression, bind_eq_ok] at generated
      obtain ⟨first, here, rest, further, ⟨⟩⟩ := generated
      exact .append (.append (.append (.append (.idle rfl rfl) (confined_expression here).left)
        (.idle rfl rfl)) (confined_pushed further).right) (.idle rfl rfl)
  | .functionCall .., _, generated | .macroCall .., _, generated | .list .., _, generated => by
      simp only [expression, bind_eq_ok] at generated
      obtain ⟨rest, further, ⟨⟩⟩ := generated
      have inner := confined_pushed further
      exact .append (.append (.idle rfl rfl) inner) (.idle rfl rfl)
  | .filter _ _ name, _, generated => by
      simp only [expression, bind_eq_ok] at generated
      obtain ⟨first, here, ⟨⟩⟩ := generated
      exact (confined_expression here).append (confined_filterOp name)
  | .unary _ op _, _, generated => by
      simp only [expression, bind_eq_ok] at generated
      obtain ⟨first, here, ⟨⟩⟩ := generated
      exact (confined_expression here).append (confined_unaryOp op)
  | .binary _ op _ _, _, generated => by
      simp only [expression, bind_eq_ok] at generated
      obtain ⟨first, here, second, there, ⟨⟩⟩ := generated
      exact confined_binary op (confined_expression here).left (confined_expression there).right _
  | .assign _ _ slot _, _, generated => by
      simp only [expression, bind_eq_ok] at generated
      obtain ⟨first, here, ⟨⟩⟩ := generated
      refine ((confined_expression here).mono fun _ => List.mem_cons_of_mem _).append ⟨?_, ?_⟩
      · simp [jumps_cons, jumps_nil, Op.jump?]
      · simp [Op.writes]
  | .range .., _, generated => by
      simp only [expression, bind_eq_ok] at generated
      obtain ⟨first, here, second, there, ⟨⟩⟩ := generated
      exact .append (confined_operands (confined_expression here).left
        (confined_expression there).right _) (.idle rfl rfl)

theorem confined_pushed : ∀ {nodes : List Node} {code : List Op}, pushed nodes = .ok code →
    Confined (storedAll nodes) code
  | [], _, rfl => Idle.confined (List.forall_mem_nil _)
  | first :: rest, _, generated => by
      simp only [pushed, bind_eq_ok] at generated
      obtain ⟨code, here, more, further, ⟨⟩⟩ := generated
      exact .append (.append (confined_expression here).left (.idle rfl rfl))
        (confined_pushed further).right

theorem confined_pushedBindings : ∀ {bound : List (String × Node)} {code : List Op},
    pushedBindings bound = .ok code → Confined (storedBindings bound) code
  | [], _, rfl => Idle.confined (List.forall_mem_nil _)
  | (name, first) :: rest, _, generated => by
      simp only [pushedBindings, bind_eq_ok] at generated
      obtain ⟨code, here, more, further, ⟨⟩⟩ := generated
      have key : Confined (stored first ++ storedBindings rest) [.literal (.text name), .push] :=
        Idle.confined (by simp [Idle, Op.jump?, Op.writes])
      exact .append (.append (.append key (confined_expression here).left) (.idle rfl rfl))
        (confined_pushedBindings further).right

end

theorem confined_bindings {bound : List (String × Node)} {code : List Op}
    (generated : bindings bound = .ok code) : Confined (storedBindings bound) code := by
  unfold bindings at generated
  split at generated
  · cases generated
    exact .idle rfl rfl
  · simp only [bind_eq_ok] at generated
    obtain ⟨pairs, further, ⟨⟩⟩ := generated
    exact .append (.append (.idle rfl rfl) (confined_pushedBindings further)) (.idle rfl rfl)

theorem confined_target {template : Node} {bound : List (String × Node)} {code : List Op}
    (generated : target template bound = .ok code) :
    Confined (stored template ++ storedBindings bound) code := by
  simp only [target, bind_eq_ok] at generated
  obtain ⟨name, here, map, there, ⟨⟩⟩ := generated
  refine .append (.append (.append (confined_expression here).left (.idle rfl rfl))
    (confined_bindings there).right) ?_
  exact Idle.confined (by simp [Idle, Op.jump?, Op.writes])

mutual

/-- The code of a statement stays in itself, and writes what the statement does. -/
theorem confined_statement : ∀ {node : Node} {code : List Op}, statement node = .ok code →
    Confined (stored node) code
  | .text .., _, rfl => Idle.confined (by simp [Idle, Op.jump?, Op.writes])
  | .print .., _, generated => by
      simp only [statement, bind_eq_ok] at generated
      obtain ⟨value, here, ⟨⟩⟩ := generated
      exact (confined_expression here).append (.idle rfl rfl)
  | .discard .., _, generated => by
      have here := confined_expression generated
      exact here
  | .conditional .., _, generated => by
      simp only [statement, bind_eq_ok] at generated
      obtain ⟨test, here, first, yes, second, no, ⟨⟩⟩ := generated
      exact confined_branches (confined_expression here).left.left (confined_block yes).right.left
        (confined_block no).right
  | .forLoop _ _ slot .., _, generated => by
      simp only [statement, bind_eq_ok] at generated
      obtain ⟨list, here, body, inside, ⟨⟩⟩ := generated
      exact confined_forLoop (confined_expression here).right.left (confined_block inside).right
        fun _ own => List.mem_append_left _ (List.mem_append_left _ own)
  | .whileLoop _ _ _ slot _, _, generated => by
      simp only [statement, bind_eq_ok] at generated
      obtain ⟨test, here, body, inside, ⟨⟩⟩ := generated
      have test' := (confined_expression here).mono fun _ => List.mem_cons_of_mem slot
      exact confined_whileLoop test'.left (confined_block inside).right List.mem_cons_self
  | .inclusion .., _, generated => by
      simp only [statement, bind_eq_ok] at generated
      obtain ⟨name, aimed, ⟨⟩⟩ := generated
      exact (confined_target aimed).append (.idle rfl rfl)
  | .wrapper .., _, generated => by
      simp only [statement, bind_eq_ok] at generated
      obtain ⟨content, inside, name, aimed, ⟨⟩⟩ := generated
      refine .append (.append (.append (.append (.idle rfl rfl)
        (confined_block inside).left.left) ?_) ?_) (.idle rfl rfl)
      · exact Idle.confined (by simp [Idle, Op.jump?, Op.writes])
      · refine (confined_target aimed).mono ?_
        intro slot within
        simp only [stored, List.mem_append] at within ⊢
        rcases within with within | within
        · exact .inl (.inr within)
        · exact .inr within
  | .int .., _, generated | .uint .., _, generated | .float .., _, generated
  | .string .., _, generated | .bool .., _, generated | .nil _, _, generated
  | .localVar .., _, generated | .symbol .., _, generated | .loopVar .., _, generated
  | .field .., _, generated | .index .., _, generated | .methodCall .., _, generated
  | .functionCall .., _, generated | .macroCall .., _, generated | .filter .., _, generated
  | .unary .., _, generated | .binary .., _, generated | .assign .., _, generated
  | .list .., _, generated | .range .., _, generated => confined_expression generated

theorem confined_block : ∀ {nodes : List Node} {code : List Op}, block nodes = .ok code →
    Confined (storedAll nodes) code
  | [], _, rfl => Idle.confined (List.forall_mem_nil _)
  | first :: rest, _, generated => by
      simp only [block, bind_eq_ok] at generated
      obtain ⟨code, here, more, further, ⟨⟩⟩ := generated
      exact (confined_statement here).left.append (confined_block further).right

end

theorem confined_of_emits {nodes : List Node} {code : List Op} (emits : Emits nodes code) :
    Confined (storedAll nodes) code := by
  induction emits with
  | nil => exact Idle.confined (List.forall_mem_nil _)
  | declared place name parameters body _ ih => exact ih.right
  | emitted generated _ ih => exact (confined_statement generated).left.append ih.right

end Generate

end Stencil

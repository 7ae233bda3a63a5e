import Stencil.Proofs.Compilation.Built
import Stencil.Proofs.Template.SlotCount

/-!
# Slots of compiled code

The code of nodes uses the slots of the nodes and no others.
-/

namespace Stencil

open Node (Fits FitAll fitAll_cons)

/-- Code all whose slots are below a bound. -/
def Slotted (bound : Nat) (code : List Op) : Prop :=
  ∀ op ∈ code, ∀ slot ∈ op.slots, slot < bound

namespace Slotted

variable {bound : Nat} {code more left right : List Op} {op : Op}

theorem nil : Slotted bound [] :=
  nofun

theorem cons (here : ∀ slot ∈ op.slots, slot < bound) (rest : Slotted bound code) :
    Slotted bound (op :: code) :=
  List.forall_mem_cons.mpr ⟨here, rest⟩

theorem free (none : op.slots = []) (rest : Slotted bound code) : Slotted bound (op :: code) :=
  cons (by rw [none]; exact nofun) rest

theorem append (slotted : Slotted bound code) (slotted' : Slotted bound more) :
    Slotted bound (code ++ more) :=
  List.forall_mem_append.mpr ⟨slotted, slotted'⟩

/-- A last instruction without slots. -/
theorem snoc (slotted : Slotted bound code) (none : op.slots = []) : Slotted bound (code ++ [op]) :=
  slotted.append (free none nil)

/-- The slots of a loop over a list. -/
theorem forall_three {slot : Nat} (small : slot + 2 < bound) :
    ∀ place ∈ [slot, slot + 1, slot + 2], place < bound := by
  simp only [List.forall_mem_cons, List.not_mem_nil, false_implies, implies_true, and_true]
  omega

theorem operands (first : Slotted bound left) (second : Slotted bound right) (spared : Bool) :
    Slotted bound (Generate.operands left right spared) := by
  unfold Generate.operands
  split
  · exact (first.snoc rfl).append second
  · exact ((first.snoc rfl).append second).snoc rfl

theorem binary (op : Node.BinaryOp) (first : Slotted bound left) (second : Slotted bound right)
    (spared : Bool) : Slotted bound (Generate.binary op left right spared) := by
  cases op with
  | and | or => exact (first.snoc rfl).append second
  | _ => exact (first.operands second spared).snoc rfl

theorem branches {positive negative : List Op} (slotted : Slotted bound code)
    (first : Slotted bound positive) (second : Slotted bound negative) (single : Bool) :
    Slotted bound (Generate.branches code positive negative single) := by
  unfold Generate.branches
  split
  · exact (slotted.snoc rfl).append first
  · exact (((slotted.snoc rfl).append first).snoc rfl).append second

theorem forLoop {body : List Op} {slot : Nat} (max : Nat) (small : slot + 2 < bound)
    (slotted : Slotted bound code) (inside : Slotted bound body) :
    Slotted bound (Generate.forLoop code body slot max) := by
  have starts : ∀ place ∈ (Op.forStart slot).slots, place < bound := forall_three small
  have seeks (exit : Int) : ∀ place ∈ (Op.forNext slot max exit).slots, place < bound :=
    forall_three small
  exact ((slotted.append (cons starts (cons (seeks _) nil))).append inside).snoc rfl

theorem whileLoop {body : List Op} {slot : Nat} (max : Nat) (small : slot < bound)
    (slotted : Slotted bound code) (inside : Slotted bound body) :
    Slotted bound (Generate.whileLoop code body slot max) := by
  have starts : ∀ place ∈ (Op.saveLocal slot).slots, place < bound :=
    List.forall_mem_singleton.mpr small
  have guards : ∀ place ∈ (Op.loopGuard slot max).slots, place < bound :=
    List.forall_mem_singleton.mpr small
  exact ((((free rfl (cons starts nil)).append slotted).append
    (free rfl (cons guards (free rfl nil)))).append inside).snoc rfl

end Slotted

namespace Generate

theorem slots_filterOp (name : String) : (filterOp name).slots = [] := by
  unfold filterOp
  split <;> rfl

theorem slots_unaryOp (op : Node.UnaryOp) : (unaryOp op).slots = [] := by
  cases op <;> rfl

variable {bound : Nat}

mutual

theorem slotted_expression : ∀ {node : Node} {code : List Op}, expression node = .ok code →
    node.Fits bound → Slotted bound code
  | .int .., _, rfl, _ | .uint .., _, rfl, _ | .float .., _, rfl, _ | .string .., _, rfl, _
  | .bool .., _, rfl, _ | .nil _, _, rfl, _ | .symbol .., _, rfl, _ => .free rfl .nil
  | .localVar .., _, rfl, fits =>
      .cons (List.forall_mem_singleton.mpr (fits _ List.mem_cons_self)) .nil
  | .loopVar .., _, rfl, fits =>
      .cons (Slotted.forall_three (fits _ List.mem_cons_self)) .nil
  | .field .., _, generated, fits => by
      simp only [expression, bind_eq_ok] at generated
      obtain ⟨first, here, ⟨⟩⟩ := generated
      exact (slotted_expression here (List.forall_mem_cons.mp fits).2).snoc rfl
  | .filter .., _, generated, fits => by
      simp only [expression, bind_eq_ok] at generated
      obtain ⟨first, here, ⟨⟩⟩ := generated
      exact (slotted_expression here (List.forall_mem_cons.mp fits).2).snoc (slots_filterOp _)
  | .unary .., _, generated, fits => by
      simp only [expression, bind_eq_ok] at generated
      obtain ⟨first, here, ⟨⟩⟩ := generated
      exact (slotted_expression here (List.forall_mem_cons.mp fits).2).snoc (slots_unaryOp _)
  | .assign _ _ slot _, _, generated, fits => by
      simp only [expression, bind_eq_ok] at generated
      obtain ⟨first, here, ⟨⟩⟩ := generated
      obtain ⟨small, fits⟩ := List.forall_mem_cons.mp fits
      have saves : ∀ place ∈ (Op.saveLocal slot).slots, place < bound :=
        List.forall_mem_singleton.mpr small
      exact (slotted_expression here fits).append (.cons saves .nil)
  | .index .., _, generated, fits => by
      simp only [expression, bind_eq_ok] at generated
      obtain ⟨first, here, second, there, ⟨⟩⟩ := generated
      obtain ⟨_, fits⟩ := List.forall_mem_cons.mp fits
      obtain ⟨fits, fits'⟩ := List.forall_mem_append.mp fits
      exact (((slotted_expression here fits).snoc rfl).append (slotted_expression there fits')).append
        (.free rfl (.free rfl (.free rfl .nil)))
  | .binary .., _, generated, fits => by
      simp only [expression, bind_eq_ok] at generated
      obtain ⟨first, here, second, there, ⟨⟩⟩ := generated
      obtain ⟨_, fits⟩ := List.forall_mem_cons.mp fits
      obtain ⟨fits, fits'⟩ := List.forall_mem_append.mp fits
      exact .binary _ (slotted_expression here fits) (slotted_expression there fits') _
  | .range .., _, generated, fits => by
      simp only [expression, bind_eq_ok] at generated
      obtain ⟨first, here, second, there, ⟨⟩⟩ := generated
      obtain ⟨_, fits⟩ := List.forall_mem_cons.mp fits
      obtain ⟨fits, fits'⟩ := List.forall_mem_append.mp fits
      exact (Slotted.operands (slotted_expression here fits) (slotted_expression there fits') _).snoc
        rfl
  | .methodCall .., _, generated, fits => by
      simp only [expression, bind_eq_ok] at generated
      obtain ⟨first, here, rest, further, ⟨⟩⟩ := generated
      obtain ⟨_, fits⟩ := List.forall_mem_cons.mp fits
      obtain ⟨fits, fits'⟩ := List.forall_mem_append.mp fits
      exact ((Slotted.free rfl (slotted_expression here fits)).snoc rfl).append
        (slotted_pushed further fits') |>.snoc rfl
  | .functionCall .., _, generated, fits | .macroCall .., _, generated, fits
  | .list .., _, generated, fits => by
      simp only [expression, bind_eq_ok] at generated
      obtain ⟨rest, further, ⟨⟩⟩ := generated
      exact (Slotted.free rfl (slotted_pushed further (List.forall_mem_cons.mp fits).2)).snoc rfl

theorem slotted_pushed : ∀ {nodes : List Node} {code : List Op}, pushed nodes = .ok code →
    FitAll bound nodes → Slotted bound code
  | [], _, rfl, _ => .nil
  | first :: rest, _, generated, fits => by
      simp only [pushed, bind_eq_ok] at generated
      obtain ⟨code, here, more, further, ⟨⟩⟩ := generated
      obtain ⟨fits, fits'⟩ := fitAll_cons.mp fits
      exact ((slotted_expression here fits).snoc rfl).append (slotted_pushed further fits')

theorem slotted_pushedBindings : ∀ {bound' : List (String × Node)} {code : List Op},
    pushedBindings bound' = .ok code → (∀ inner ∈ Node.walkBindings bound', inner.Below bound) →
    Slotted bound code
  | [], _, rfl, _ => .nil
  | (name, first) :: rest, _, generated, fits => by
      simp only [pushedBindings, bind_eq_ok] at generated
      obtain ⟨code, here, more, further, ⟨⟩⟩ := generated
      obtain ⟨fits, fits'⟩ := List.forall_mem_append.mp fits
      exact ((Slotted.free rfl (.free rfl (slotted_expression here fits))).snoc rfl).append
        (slotted_pushedBindings further fits')

end

theorem slotted_target {template : Node} {bound' : List (String × Node)} {code : List Op}
    (generated : target template bound' = .ok code) (fits : template.Fits bound)
    (others : ∀ inner ∈ Node.walkBindings bound', inner.Below bound) : Slotted bound code := by
  simp only [target, bind_eq_ok] at generated
  obtain ⟨name, here, map, there, ⟨⟩⟩ := generated
  have mapped : Slotted bound map := by
    unfold bindings at there
    split at there
    · cases there
      exact .free rfl .nil
    · simp only [bind_eq_ok] at there
      obtain ⟨pairs, further, ⟨⟩⟩ := there
      exact (Slotted.free rfl (slotted_pushedBindings further others)).snoc rfl
  exact (((slotted_expression here fits).snoc rfl).append mapped).append
    (.free rfl (.free rfl .nil))

mutual

theorem slotted_statement : ∀ {node : Node} {code : List Op}, statement node = .ok code →
    node.Fits bound → Slotted bound code
  | .text .., _, rfl, _ => .free rfl (.free rfl .nil)
  | .print .., _, generated, fits => by
      simp only [statement, bind_eq_ok] at generated
      obtain ⟨value, here, ⟨⟩⟩ := generated
      exact (slotted_expression here (List.forall_mem_cons.mp fits).2).snoc rfl
  | .discard .., _, generated, fits =>
      slotted_expression generated (List.forall_mem_cons.mp fits).2
  | .conditional .., _, generated, fits => by
      simp only [statement, bind_eq_ok] at generated
      obtain ⟨test, here, first, yes, second, no, ⟨⟩⟩ := generated
      obtain ⟨_, fits⟩ := List.forall_mem_cons.mp fits
      obtain ⟨fits, fits''⟩ := List.forall_mem_append.mp fits
      obtain ⟨fits, fits'⟩ := List.forall_mem_append.mp fits
      exact .branches (slotted_expression here fits) (slotted_block yes fits')
        (slotted_block no fits'') _
  | .forLoop .., _, generated, fits => by
      simp only [statement, bind_eq_ok] at generated
      obtain ⟨list, here, body, inside, ⟨⟩⟩ := generated
      obtain ⟨small, fits⟩ := List.forall_mem_cons.mp fits
      obtain ⟨fits, fits'⟩ := List.forall_mem_append.mp fits
      exact .forLoop _ small (slotted_expression here fits) (slotted_block inside fits')
  | .whileLoop .., _, generated, fits => by
      simp only [statement, bind_eq_ok] at generated
      obtain ⟨test, here, body, inside, ⟨⟩⟩ := generated
      obtain ⟨small, fits⟩ := List.forall_mem_cons.mp fits
      obtain ⟨fits, fits'⟩ := List.forall_mem_append.mp fits
      exact .whileLoop _ small (slotted_expression here fits) (slotted_block inside fits')
  | .inclusion .., _, generated, fits => by
      simp only [statement, bind_eq_ok] at generated
      obtain ⟨code, here, ⟨⟩⟩ := generated
      obtain ⟨_, fits⟩ := List.forall_mem_cons.mp fits
      obtain ⟨fits, others⟩ := List.forall_mem_append.mp fits
      exact (slotted_target here fits others).snoc rfl
  | .wrapper .., _, generated, fits => by
      simp only [statement, bind_eq_ok] at generated
      obtain ⟨content, inside, code, here, ⟨⟩⟩ := generated
      obtain ⟨_, fits⟩ := List.forall_mem_cons.mp fits
      obtain ⟨fits, others⟩ := List.forall_mem_append.mp fits
      obtain ⟨fits', fits⟩ := List.forall_mem_append.mp fits
      exact (((Slotted.free rfl (slotted_block inside fits')).append
        (.free rfl (.free rfl .nil))).append (slotted_target here fits others)).snoc rfl
  | .int .., _, generated, fits | .uint .., _, generated, fits | .float .., _, generated, fits
  | .string .., _, generated, fits | .bool .., _, generated, fits | .nil _, _, generated, fits
  | .localVar .., _, generated, fits | .symbol .., _, generated, fits
  | .loopVar .., _, generated, fits | .field .., _, generated, fits
  | .index .., _, generated, fits | .methodCall .., _, generated, fits
  | .functionCall .., _, generated, fits | .macroCall .., _, generated, fits
  | .filter .., _, generated, fits | .unary .., _, generated, fits
  | .binary .., _, generated, fits | .assign .., _, generated, fits
  | .list .., _, generated, fits | .range .., _, generated, fits =>
      slotted_expression generated fits

theorem slotted_block : ∀ {nodes : List Node} {code : List Op}, block nodes = .ok code →
    FitAll bound nodes → Slotted bound code
  | [], _, rfl, _ => .nil
  | first :: rest, _, generated, fits => by
      simp only [block, bind_eq_ok] at generated
      obtain ⟨code, here, more, further, ⟨⟩⟩ := generated
      obtain ⟨fits, fits'⟩ := fitAll_cons.mp fits
      exact (slotted_statement here fits).append (slotted_block further fits')

end

end Generate

theorem Emits.slotted {bound : Nat} {nodes : List Node} {code : List Op} (emits : Emits nodes code)
    (fits : FitAll bound nodes) : Slotted bound code := by
  induction emits with
  | nil => exact .nil
  | declared _ _ _ _ _ ih => exact ih (fitAll_cons.mp fits).2
  | emitted generated _ ih =>
      obtain ⟨fits, fits'⟩ := fitAll_cons.mp fits
      exact (Generate.slotted_statement generated fits).append (ih fits')

/-- Fused prints use no slots. -/
theorem Fused.slotted {bound : Nat} {code code' : List Op} (fused : Fused code code')
    (slotted : Slotted bound code) : Slotted bound code' := by
  induction fused with
  | nil => exact slotted
  | keep op _ ih =>
      obtain ⟨here, rest⟩ := List.forall_mem_cons.mp slotted
      exact .cons here (ih rest)
  | fuse text _ ih =>
      obtain ⟨_, rest⟩ := List.forall_mem_cons.mp slotted
      exact .free rfl (.free rfl (ih (List.forall_mem_cons.mp rest).2))

end Stencil

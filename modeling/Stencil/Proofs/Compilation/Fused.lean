import Stencil.Code.Fuse
import Stencil.Proofs.Compilation.Composition
import Stencil.Proofs.Results

/-!
# Fused code

Code in which some prints of text are fused. Expressions print nothing raw, and no statement begins
with a raw print: so fusing respects the schemes by which code is put together.
-/

namespace Stencil

/-- The second code is the first one with some prints of text fused. -/
inductive Fused : List Op → List Op → Prop where
  | nil : Fused [] []
  | keep (op : Op) {code code' : List Op} (rest : Fused code code') :
      Fused (op :: code) (op :: code')
  | fuse (text : String) {code code' : List Op} (rest : Fused code code') :
      Fused (.literal (.text text) :: .printRaw :: code) (.printText text :: .noop :: code')

theorem Fused.refl : ∀ code : List Op, Fused code code
  | [] => .nil
  | op :: rest => .keep op (refl rest)

theorem fused_fuseFrom (targets : List Nat) (ip : Nat) (code : List Op) :
    Fused code (fuseFrom targets ip code) := by
  fun_induction fuseFrom targets ip code with
  | case1 ip text rest reached ih => exact .keep _ ih
  | case2 ip text rest free ih => exact .fuse text ih
  | case3 ip op rest other ih => exact .keep op ih
  | case4 => exact .nil

theorem fused_fuse (code : List Op) : Fused code (fuse code) :=
  fused_fuseFrom _ 0 code

/-- Code without raw prints, and without an end. -/
def Quiet (code : List Op) : Prop :=
  ∀ op ∈ code, op ≠ .printRaw ∧ op ≠ .halt

theorem quiet_append {first second : List Op} :
    Quiet (first ++ second) ↔ Quiet first ∧ Quiet second :=
  List.forall_mem_append

/-- Code that does not begin with a raw print. -/
def Fresh (code : List Op) : Prop :=
  code.head? ≠ some .printRaw

theorem Quiet.fresh {code : List Op} (quiet : Quiet code) : Fresh code := by
  intro begins
  exact (quiet _ (List.mem_of_mem_head? begins)).1 rfl

theorem Quiet.haltless {code : List Op} (quiet : Quiet code) : .halt ∉ code :=
  fun inside => (quiet _ inside).2 rfl

theorem Fresh.append {first second : List Op} (fresh : Fresh first) (fresh' : Fresh second) :
    Fresh (first ++ second) := by
  cases first with
  | nil => exact fresh'
  | cons op rest => exact fresh

theorem Quiet.fresh_append {first rest : List Op} {op : Op} (quiet : Quiet first)
    (other : op ≠ .printRaw) : Fresh (first ++ op :: rest) :=
  quiet.fresh.append fun begins => other (Option.some.inj begins)

namespace Fused

variable {first second code code' : List Op}

theorem length_eq (fused : Fused code code') : code'.length = code.length := by
  induction fused with
  | nil => rfl
  | keep op _ ih => exact congrArg (· + 1) ih
  | fuse text _ ih => exact congrArg (· + 2) ih

theorem haltless (fused : Fused code code') (haltless : .halt ∉ code) : .halt ∉ code' := by
  induction fused with
  | nil => exact haltless
  | keep op _ ih =>
      simp only [List.mem_cons, not_or] at haltless ⊢
      exact ⟨haltless.1, ih haltless.2⟩
  | fuse text _ ih =>
      simp only [List.mem_cons, not_or] at haltless ⊢
      exact ⟨nofun, nofun, ih haltless.2.2⟩

theorem eq_of_quiet (fused : Fused code code') (quiet : Quiet code) : code' = code := by
  induction fused with
  | nil => rfl
  | keep op _ ih => rw [ih fun op inside => quiet op (.tail _ inside)]
  | fuse text _ _ => exact absurd rfl (quiet .printRaw (.tail _ (.head _))).1

/-- No pair lies across the boundary before code that begins with no raw print. -/
theorem split (fused : Fused (first ++ second) code) (fresh : Fresh second) :
    ∃ front back, code = front ++ back ∧ Fused first front ∧ Fused second back := by
  generalize whole : first ++ second = both at fused
  induction fused generalizing first with
  | nil =>
      obtain ⟨rfl, rfl⟩ := List.append_eq_nil_iff.mp whole
      exact ⟨[], [], rfl, .nil, .nil⟩
  | @keep op rest rest' fused ih =>
      cases first with
      | nil =>
          obtain rfl := whole
          exact ⟨[], op :: rest', rfl, .nil, .keep op fused⟩
      | cons other first =>
          obtain ⟨rfl, further⟩ := List.cons.inj whole
          obtain ⟨front, back, rfl, begun, continued⟩ := ih further
          exact ⟨other :: front, back, rfl, .keep other begun, continued⟩
  | @fuse text rest rest' fused ih =>
      match first, whole with
      | [], whole =>
          obtain rfl := whole
          exact ⟨[], _, rfl, .nil, .fuse text fused⟩
      | [op], whole =>
          obtain ⟨_, rfl⟩ := List.cons.inj whole
          exact absurd rfl fresh
      | op :: next :: first, whole =>
          obtain ⟨rfl, tails⟩ := List.cons.inj whole
          obtain ⟨rfl, further⟩ := List.cons.inj tails
          obtain ⟨front, back, rfl, begun, continued⟩ := ih further
          exact ⟨_ :: _ :: front, back, rfl, .fuse text begun, continued⟩

/-- Code without raw prints stays as it is where it begins fused code. -/
theorem split_quiet (fused : Fused (first ++ second) code) (quiet : Quiet first)
    (fresh : Fresh second) : ∃ back, code = first ++ back ∧ Fused second back := by
  obtain ⟨front, back, rfl, begun, continued⟩ := fused.split fresh
  obtain rfl := begun.eq_of_quiet quiet
  exact ⟨back, rfl, continued⟩

end Fused

/-! ## Generated code -/

namespace Generate

theorem quiet_operands {left right : List Op} (quiet : Quiet left) (quiet' : Quiet right)
    (spared : Bool) : Quiet (operands left right spared) := by
  have joined (op : Op) (other : Quiet [op]) : Quiet (left ++ [op] ++ right) :=
    quiet_append.mpr ⟨quiet_append.mpr ⟨quiet, other⟩, quiet'⟩
  cases spared with
  | true => exact joined .moveToSecond (by simp [Quiet])
  | false => exact quiet_append.mpr ⟨joined .push (by simp [Quiet]), by simp [Quiet]⟩

theorem quiet_binary {left right : List Op} (op : Node.BinaryOp) (quiet : Quiet left)
    (quiet' : Quiet right) (spared : Bool) : Quiet (binary op left right spared) := by
  have both := quiet_operands quiet quiet' spared
  cases op with
  | and => exact quiet_append.mpr ⟨quiet_append.mpr ⟨quiet, by simp [Quiet]⟩, quiet'⟩
  | or => exact quiet_append.mpr ⟨quiet_append.mpr ⟨quiet, by simp [Quiet]⟩, quiet'⟩
  | _ => exact quiet_append.mpr ⟨both, by simp [Quiet]⟩

theorem quiet_filterOp (name : String) : Quiet [filterOp name] := by
  unfold filterOp
  split <;> simp [Quiet]

theorem quiet_unaryOp (op : Node.UnaryOp) : Quiet [unaryOp op] := by
  cases op <;> simp [unaryOp, Quiet]

mutual

/-- The code of an expression prints nothing raw. -/
theorem quiet_expression : ∀ {node : Node} {code : List Op}, expression node = .ok code →
    Quiet code
  | .int .., _, rfl | .uint .., _, rfl | .float .., _, rfl | .string .., _, rfl | .bool .., _, rfl
  | .nil _, _, rfl | .localVar .., _, rfl | .symbol .., _, rfl | .loopVar .., _, rfl => by
      simp [Quiet]
  | .field .., _, generated => by
      simp only [expression, bind_eq_ok] at generated
      obtain ⟨first, here, ⟨⟩⟩ := generated
      exact quiet_append.mpr ⟨quiet_expression here, by simp [Quiet]⟩
  | .index .., _, generated => by
      simp only [expression, bind_eq_ok] at generated
      obtain ⟨first, here, second, there, ⟨⟩⟩ := generated
      simp only [quiet_append]
      exact ⟨⟨⟨quiet_expression here, by simp [Quiet]⟩, quiet_expression there⟩, by simp [Quiet]⟩
  | .methodCall .., _, generated => by
      simp only [expression, bind_eq_ok] at generated
      obtain ⟨first, here, rest, further, ⟨⟩⟩ := generated
      simp only [quiet_append]
      exact ⟨⟨⟨⟨by simp [Quiet], quiet_expression here⟩, by simp [Quiet]⟩, quiet_pushed further⟩,
        by simp [Quiet]⟩
  | .functionCall .., _, generated | .macroCall .., _, generated | .list .., _, generated => by
      simp only [expression, bind_eq_ok] at generated
      obtain ⟨rest, further, ⟨⟩⟩ := generated
      simp only [quiet_append]
      exact ⟨⟨by simp [Quiet], quiet_pushed further⟩, by simp [Quiet]⟩
  | .filter _ _ name, _, generated => by
      simp only [expression, bind_eq_ok] at generated
      obtain ⟨first, here, ⟨⟩⟩ := generated
      exact quiet_append.mpr ⟨quiet_expression here, quiet_filterOp name⟩
  | .unary _ op _, _, generated => by
      simp only [expression, bind_eq_ok] at generated
      obtain ⟨first, here, ⟨⟩⟩ := generated
      exact quiet_append.mpr ⟨quiet_expression here, quiet_unaryOp op⟩
  | .binary _ op _ _, _, generated => by
      simp only [expression, bind_eq_ok] at generated
      obtain ⟨first, here, second, there, ⟨⟩⟩ := generated
      exact quiet_binary op (quiet_expression here) (quiet_expression there) _
  | .assign .., _, generated => by
      simp only [expression, bind_eq_ok] at generated
      obtain ⟨first, here, ⟨⟩⟩ := generated
      exact quiet_append.mpr ⟨quiet_expression here, by simp [Quiet]⟩
  | .range .., _, generated => by
      simp only [expression, bind_eq_ok] at generated
      obtain ⟨first, here, second, there, ⟨⟩⟩ := generated
      exact quiet_append.mpr ⟨quiet_operands (quiet_expression here) (quiet_expression there) _,
        by simp [Quiet]⟩

theorem quiet_pushed : ∀ {nodes : List Node} {code : List Op}, pushed nodes = .ok code → Quiet code
  | [], _, rfl => by simp [Quiet]
  | first :: rest, _, generated => by
      simp only [pushed, bind_eq_ok] at generated
      obtain ⟨code, here, more, further, ⟨⟩⟩ := generated
      simp only [quiet_append]
      exact ⟨⟨quiet_expression here, by simp [Quiet]⟩, quiet_pushed further⟩

theorem quiet_pushedBindings : ∀ {bound : List (String × Node)} {code : List Op},
    pushedBindings bound = .ok code → Quiet code
  | [], _, rfl => by simp [Quiet]
  | (name, first) :: rest, _, generated => by
      simp only [pushedBindings, bind_eq_ok] at generated
      obtain ⟨code, here, more, further, ⟨⟩⟩ := generated
      simp only [quiet_append]
      exact ⟨⟨⟨by simp [Quiet], quiet_expression here⟩, by simp [Quiet]⟩,
        quiet_pushedBindings further⟩

end

theorem quiet_bindings {bound : List (String × Node)} {code : List Op}
    (generated : bindings bound = .ok code) : Quiet code := by
  unfold bindings at generated
  split at generated
  · cases generated
    simp [Quiet]
  · simp only [bind_eq_ok] at generated
    obtain ⟨pairs, further, ⟨⟩⟩ := generated
    simp only [quiet_append]
    exact ⟨⟨by simp [Quiet], quiet_pushedBindings further⟩, by simp [Quiet]⟩

theorem quiet_target {template : Node} {bound : List (String × Node)} {code : List Op}
    (generated : target template bound = .ok code) : Quiet code := by
  simp only [target, bind_eq_ok] at generated
  obtain ⟨name, here, map, there, ⟨⟩⟩ := generated
  simp only [quiet_append]
  exact ⟨⟨⟨quiet_expression here, by simp [Quiet]⟩, quiet_bindings there⟩, by simp [Quiet]⟩

theorem fresh_statement {node : Node} {code : List Op} (generated : statement node = .ok code) :
    Fresh code := by
  cases node with
  | text =>
      cases generated
      simp [Fresh]
  | print =>
      simp only [statement, bind_eq_ok] at generated
      obtain ⟨value, here, ⟨⟩⟩ := generated
      exact (quiet_expression here).fresh.append (by simp [Fresh])
  | conditional _ _ _ negative =>
      simp only [statement, bind_eq_ok] at generated
      obtain ⟨test, here, first, _, second, _, ⟨⟩⟩ := generated
      unfold branches
      split <;> simp only [List.append_assoc, List.cons_append, List.nil_append]
      · exact (quiet_expression here).fresh_append (by simp)
      · exact (quiet_expression here).fresh_append (by simp)
  | forLoop =>
      simp only [statement, bind_eq_ok] at generated
      obtain ⟨list, here, body, _, ⟨⟩⟩ := generated
      simp only [forLoop, List.append_assoc, List.cons_append]
      exact (quiet_expression here).fresh_append (by simp)
  | whileLoop =>
      simp only [statement, bind_eq_ok] at generated
      obtain ⟨test, here, body, _, ⟨⟩⟩ := generated
      simp [Fresh, whileLoop]
  | macroDef => cases generated
  | inclusion =>
      simp only [statement, bind_eq_ok] at generated
      obtain ⟨name, here, ⟨⟩⟩ := generated
      exact (quiet_target here).fresh.append (by simp [Fresh])
  | wrapper =>
      simp only [statement, bind_eq_ok] at generated
      obtain ⟨content, _, name, _, ⟨⟩⟩ := generated
      simp [Fresh]
  | _ => exact (quiet_expression generated).fresh

theorem fresh_block {nodes : List Node} {code : List Op} (generated : block nodes = .ok code) :
    Fresh code := by
  induction nodes generalizing code with
  | nil =>
      cases generated
      nofun
  | cons first rest ih =>
      simp only [block, bind_eq_ok] at generated
      obtain ⟨code, here, more, further, ⟨⟩⟩ := generated
      exact (fresh_statement here).append (ih further)

mutual

/-- Statements end nothing: only streams do. -/
theorem haltless_statement : ∀ {node : Node} {code : List Op}, statement node = .ok code →
    .halt ∉ code
  | .text .., _, rfl => by simp
  | .print .., _, generated => by
      simp only [statement, bind_eq_ok] at generated
      obtain ⟨value, here, ⟨⟩⟩ := generated
      simp [(quiet_expression here).haltless]
  | .discard .., _, generated => (quiet_expression generated).haltless
  | .conditional _ _ _ negative, _, generated => by
      simp only [statement, bind_eq_ok] at generated
      obtain ⟨test, here, first, yes, second, no, ⟨⟩⟩ := generated
      unfold branches
      split <;>
        simp [(quiet_expression here).haltless, haltless_block yes, haltless_block no]
  | .forLoop .., _, generated => by
      simp only [statement, bind_eq_ok] at generated
      obtain ⟨list, here, body, inside, ⟨⟩⟩ := generated
      simp [forLoop, (quiet_expression here).haltless, haltless_block inside]
  | .whileLoop .., _, generated => by
      simp only [statement, bind_eq_ok] at generated
      obtain ⟨test, here, body, inside, ⟨⟩⟩ := generated
      simp [whileLoop, (quiet_expression here).haltless, haltless_block inside]
  | .inclusion .., _, generated => by
      simp only [statement, bind_eq_ok] at generated
      obtain ⟨name, aimed, ⟨⟩⟩ := generated
      simp [(quiet_target aimed).haltless]
  | .wrapper .., _, generated => by
      simp only [statement, bind_eq_ok] at generated
      obtain ⟨content, inside, name, aimed, ⟨⟩⟩ := generated
      simp [(quiet_target aimed).haltless, haltless_block inside]
  | .int .., _, generated | .uint .., _, generated | .float .., _, generated
  | .string .., _, generated | .bool .., _, generated | .nil _, _, generated
  | .localVar .., _, generated | .symbol .., _, generated | .loopVar .., _, generated
  | .field .., _, generated | .index .., _, generated | .methodCall .., _, generated
  | .functionCall .., _, generated | .macroCall .., _, generated | .filter .., _, generated
  | .unary .., _, generated | .binary .., _, generated | .assign .., _, generated
  | .list .., _, generated | .range .., _, generated => (quiet_expression generated).haltless

theorem haltless_block : ∀ {nodes : List Node} {code : List Op}, block nodes = .ok code →
    .halt ∉ code
  | [], _, rfl => by simp
  | first :: rest, _, generated => by
      simp only [block, bind_eq_ok] at generated
      obtain ⟨code, here, more, further, ⟨⟩⟩ := generated
      simp [haltless_statement here, haltless_block further]

end

end Generate

/-! ## Fused schemes -/

namespace Fused

open Generate (branches forLoop whileLoop)

variable {condition positive negative source body code : List Op}

theorem branches_inv {single : Bool}
    (fused : Fused (branches condition positive negative single) code) (quiet : Quiet condition)
    (fresh : Fresh positive) (fresh' : Fresh negative) :
    ∃ positive' negative', code = branches condition positive' negative' single ∧
      Fused positive positive' ∧ Fused negative negative' := by
  cases single with
  | true =>
      obtain ⟨positive', rfl, first⟩ := fused.split_quiet
        (quiet_append.mpr ⟨quiet, by simp [Quiet]⟩) fresh
      refine ⟨positive', negative, ?_, first, .refl negative⟩
      rw [branches, if_pos rfl, first.length_eq]
  | false =>
      obtain ⟨front, negative', rfl, begun, second⟩ := Fused.split fused fresh'
      obtain ⟨front, past, rfl, begun', jump⟩ := begun.split (by simp [Fresh])
      obtain ⟨positive', rfl, first⟩ := begun'.split_quiet
        (quiet_append.mpr ⟨quiet, by simp [Quiet]⟩) fresh
      obtain rfl := jump.eq_of_quiet (by simp [Quiet])
      refine ⟨positive', negative', ?_, first, second⟩
      rw [branches, if_neg Bool.false_ne_true, first.length_eq, second.length_eq]

theorem forLoop_inv {slot max : Nat} (fused : Fused (forLoop source body slot max) code)
    (quiet : Quiet source) (fresh : Fresh body) :
    ∃ body', code = forLoop source body' slot max ∧ Fused body body' := by
  obtain ⟨front, back, rfl, begun, jump⟩ := fused.split (by simp [Fresh])
  obtain ⟨body', rfl, inner⟩ := begun.split_quiet (quiet_append.mpr ⟨quiet, by simp [Quiet]⟩) fresh
  obtain rfl := jump.eq_of_quiet (by simp [Quiet])
  refine ⟨body', ?_, inner⟩
  rw [forLoop, inner.length_eq]

theorem whileLoop_inv {slot max : Nat} (fused : Fused (whileLoop condition body slot max) code)
    (quiet : Quiet condition) (fresh : Fresh body) :
    ∃ body', code = whileLoop condition body' slot max ∧ Fused body body' := by
  obtain ⟨front, back, rfl, begun, jump⟩ := fused.split (by simp [Fresh])
  obtain ⟨body', rfl, inner⟩ := begun.split_quiet
    (by simpa [Quiet, or_imp, forall_and] using quiet) fresh
  obtain rfl := jump.eq_of_quiet (by simp [Quiet])
  refine ⟨body', ?_, inner⟩
  rw [whileLoop, inner.length_eq]

theorem wrapper_inv {target : List Op}
    (fused : Fused
      ([Op.beginCapture] ++ body ++ [Op.endCapture, .push] ++ target ++ [Op.wrapper]) code)
    (quiet : Quiet target) (fresh : Fresh body) : ∃ body',
      code = [Op.beginCapture] ++ body' ++ [Op.endCapture, .push] ++ target ++ [Op.wrapper] ∧
        Fused body body' := by
  rw [List.append_assoc, List.append_assoc] at fused
  obtain ⟨front, back, rfl, begun, ended⟩ := fused.split (by simp [Fresh])
  obtain ⟨body', rfl, inner⟩ := begun.split_quiet (by simp [Quiet]) fresh
  obtain rfl := ended.eq_of_quiet (by simpa [Quiet, or_imp, forall_and] using quiet)
  exact ⟨body', by simp, inner⟩

end Fused

end Stencil

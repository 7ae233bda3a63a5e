import Stencil.Proofs.Machine.Failures
import Stencil.Proofs.Machine.Path

/-!
# Broken states

The states in which the machine itself cannot go on: a stack holds too little, the place in the code
or the target of a jump is outside of it, or a macro is missing. Code that was compiled never leads
to one.
-/

namespace Stencil

/-- Faults that say that the machine was given unsound code. -/
def Fault.isInternal : Fault → Bool
  | .underflow _ | .outOfCode _ | .jumpLeavesCode .. | .undefinedMacro _ => true
  | _ => false

namespace Machine

variable {σ : Type}

/-- There is no mark, or too few operands for it. -/
def Unmarked (state : State σ) : Prop :=
  match state.marks with
  | [] => True
  | mark :: _ => state.operands.length < mark

def LeavesCode (state : State σ) (offset : Int) : Prop :=
  ∀ target, jumpTarget? state.current.ip offset = some target → state.current.ops.size ≤ target

/-- The list of a loop has no further element, or the loop may not go on to it. -/
def NoNext (state : State σ) (slot max : Nat) : Prop :=
  let index := Int64.ofInt (state.load (slot + 1)).toInteger + 1
  ∀ item, (state.items (slot + 2))[index.toInt.toNat]? = some item → max ≤ index.toInt.toNat

/-- An instruction takes a branch by which the machine itself fails. -/
def BrokenBy (state : State σ) : Op → Prop
  | .pop | .popToSecond | .wrapper => state.operands = []
  | .makeList | .makeMap | .callFunction _ => Unmarked state
  | .callMethod _ => Unmarked state ∨ state.marks.head? = some state.operands.length
  | .callMacro name => Unmarked state ∨ Dictionary.find? state.current.code.macros name = none
  | .endCapture => state.captures = []
  | .goto offset => LeavesCode state offset
  | .and offset | .jumpIfFalse offset =>
      state.accumulator.isTruthy = false ∧ LeavesCode state offset
  | .or offset => state.accumulator.isTruthy = true ∧ LeavesCode state offset
  | .forNext slot max exit => NoNext state slot max ∧ LeavesCode state exit
  | _ => False

/-- There is no next instruction, or it takes such a branch. -/
def Broken (state : State σ) : Prop :=
  match state.current.ops[state.current.ip]? with
  | none => True
  | some op => BrokenBy state op

theorem broken_iff {state : State σ} {op : Op}
    (found : state.current.ops[state.current.ip]? = some op) :
    Broken state ↔ BrokenBy state op := by
  rw [Broken, found]

/-! ## Steps by kind of instruction -/

theorem step_of_change {environment : Environment σ} {state : State σ} {op : Op}
    {change : State σ → State σ} (found : state.current.ops[state.current.ip]? = some op)
    (changes : change? environment op = some change) :
    step environment state = .running (change state) := by
  simp only [step, found, changes]

theorem step_of_attempt {environment : Environment σ} {state : State σ} {op : Op}
    {attempt : State σ → Except Fault (State σ)}
    (found : state.current.ops[state.current.ip]? = some op)
    (unchanging : change? environment op = none)
    (attempts : attempt? environment op = some attempt) :
    step environment state =
      match attempt state with
      | .ok next => .running next
      | .error fault => fail state fault := by
  cases done : attempt state with
  | ok next => simp only [step, found, unchanging, attempts, done]
  | error fault => simp only [step, found, unchanging, attempts, done]

theorem step_of_transfer {environment : Environment σ} {state : State σ} {op : Op}
    (found : state.current.ops[state.current.ip]? = some op)
    (unchanging : change? environment op = none)
    (attemptless : attempt? environment op = none) :
    step environment state = transfer environment state op := by
  simp only [step, found, unchanging, attemptless]

/-! ## What broken states lead to -/

theorem popMarked_of_unmarked {state : State σ} (unmarked : Unmarked state) :
    ∃ stack, state.popMarked = .error (.underflow stack) := by
  unfold Unmarked at unmarked
  unfold State.popMarked
  split
  · exact ⟨_, rfl⟩
  · next mark marks marked =>
      rw [marked] at unmarked
      exact ⟨_, if_pos unmarked⟩

theorem jump_of_leavesCode {state : State σ} {offset : Int} (leaves : LeavesCode state offset) :
    jump state offset = fail state (.jumpLeavesCode state.current.ip offset) := by
  unfold jump
  split
  · next target reached => exact if_neg (Nat.not_lt.mpr (leaves target reached))
  · rfl

theorem nextElement_of_noNext {state : State σ} {slot max : Nat} {exit : Int}
    (past : NoNext state slot max) (leaves : LeavesCode state exit) :
    ∃ after, nextElement state slot max exit =
      .failed (.run ⟨.jumpLeavesCode state.current.ip exit, state.trace⟩) after := by
  unfold nextElement
  dsimp only
  split
  · next item found =>
      rw [if_pos (past item found)]
      exact ⟨_, (@jump_of_leavesCode _ (state.warn _) _ leaves).trans (fail_eq _ _)⟩
  · exact ⟨_, (jump_of_leavesCode leaves).trans (fail_eq state _)⟩

theorem isInternal_of_popMarked {state : State σ} {fault : Fault}
    (failed : state.popMarked = .error fault) : fault.isInternal = true := by
  unfold State.popMarked at failed
  split at failed
  · cases failed; rfl
  · dsimp only at failed
    split at failed
    · cases failed; rfl
    · cases failed

theorem pop_of_empty {state : State σ} (empty : state.operands = []) :
    state.pop = .error (.underflow "operand stack") := by
  rw [State.pop, empty]

theorem collect_of_unmarked {state : State σ} (unmarked : Unmarked state)
    (make : List Value → Answer) : ∃ stack, collect state make = .error (.underflow stack) := by
  obtain ⟨stack, popped⟩ := popMarked_of_unmarked unmarked
  refine ⟨stack, ?_⟩
  rw [collect, popped]
  rfl

/-- A mark at the height of the operands has no operands above it. -/
theorem popMarked_of_head {state : State σ}
    (level : state.marks.head? = some state.operands.length) :
    ∃ after, state.popMarked = .ok ([], after) := by
  unfold State.popMarked
  split
  · next empty => rw [empty] at level; cases level
  · next mark marks marked =>
      rw [marked] at level
      cases level
      rw [if_neg (Nat.lt_irrefl _), Nat.sub_self]
      exact ⟨_, rfl⟩

theorem fails_of_jump {environment : Environment σ} {state : State σ} {offset : Int}
    (stepped : step environment state = jump state offset) (leaves : LeavesCode state offset) :
    ∃ fault after, step environment state = .failed (.run ⟨fault, state.trace⟩) after ∧
      fault.isInternal = true := by
  rw [stepped, jump_of_leavesCode leaves]
  exact ⟨_, _, fail_eq state _, rfl⟩

theorem fails_of_attempt {environment : Environment σ} {state : State σ} {op : Op}
    {attempt : State σ → Except Fault (State σ)} {stack : String}
    (found : state.current.ops[state.current.ip]? = some op)
    (unchanging : change? environment op = none)
    (attempts : attempt? environment op = some attempt)
    (fails : attempt state = .error (.underflow stack)) :
    ∃ fault after, step environment state = .failed (.run ⟨fault, state.trace⟩) after ∧
      fault.isInternal = true := by
  rw [step_of_attempt found unchanging attempts, fails]
  exact ⟨_, _, fail_eq state _, rfl⟩

/-- Whatever the functions, the classes and the loader do, a broken state fails by a fault of the
machine. -/
theorem Broken.fails {state : State σ} (broken : Broken state) (environment : Environment σ) :
    ∃ fault after, step environment state = .failed (.run ⟨fault, state.trace⟩) after ∧
      fault.isInternal = true := by
  unfold Broken at broken
  split at broken
  · next missing =>
      refine ⟨.outOfCode state.current.ip, state.unwound, ?_, rfl⟩
      rw [step, missing]
      exact fail_eq state _
  · next op found =>
      cases op with
      | pop => exact fails_of_attempt found rfl rfl (by rw [pop_of_empty broken]; rfl)
      | popToSecond => exact fails_of_attempt found rfl rfl (by rw [pop_of_empty broken]; rfl)
      | wrapper =>
          rw [step_of_transfer found rfl rfl, transfer, wrap, pop_of_empty broken]
          exact ⟨_, _, fail_eq state _, rfl⟩
      | makeList =>
          obtain ⟨stack, collected⟩ := collect_of_unmarked broken _
          exact fails_of_attempt found rfl rfl collected
      | makeMap =>
          obtain ⟨stack, collected⟩ := collect_of_unmarked broken _
          exact fails_of_attempt found rfl rfl collected
      | callFunction name =>
          obtain ⟨stack, collected⟩ := collect_of_unmarked broken _
          exact fails_of_attempt found rfl rfl collected
      | callMethod name =>
          obtain unmarked | level := broken
          · obtain ⟨stack, collected⟩ := collect_of_unmarked unmarked _
            exact fails_of_attempt found rfl rfl collected
          · obtain ⟨after, popped⟩ := popMarked_of_head level
            exact fails_of_attempt found rfl rfl (by rw [collect, popped]; rfl)
      | callMacro name =>
          rw [step_of_transfer found rfl rfl, transfer, callMacro]
          obtain unmarked | missing := broken
          · obtain ⟨stack, popped⟩ := popMarked_of_unmarked unmarked
            rw [popped]
            exact ⟨_, _, fail_eq state _, rfl⟩
          · cases popped : state.popMarked with
            | error fault =>
                exact ⟨fault, _, fail_eq state fault, isInternal_of_popMarked popped⟩
            | ok result =>
                simp only [missing]
                exact ⟨_, _, fail_eq state _, rfl⟩
      | endCapture =>
          have fails : endCapture state = .error (.underflow "capture stack") := by
            rw [endCapture, broken]
          exact fails_of_attempt found rfl rfl fails
      | goto offset => exact fails_of_jump (step_of_transfer found rfl rfl) broken
      | and offset =>
          refine fails_of_jump ?_ broken.2
          rw [step_of_transfer found rfl rfl, transfer, jumpIf, broken.1]
          rfl
      | or offset =>
          refine fails_of_jump ?_ broken.2
          rw [step_of_transfer found rfl rfl, transfer, jumpIf, if_pos broken.1]
      | jumpIfFalse offset =>
          refine fails_of_jump ?_ broken.2
          rw [step_of_transfer found rfl rfl, transfer, jumpIf, broken.1]
          rfl
      | forNext slot max exit =>
          obtain ⟨after, failed⟩ := nextElement_of_noNext broken.1 broken.2
          rw [step_of_transfer found rfl rfl, transfer, failed]
          exact ⟨_, after, rfl, rfl⟩
      | _ => exact broken.elim

theorem not_broken_of_running {environment : Environment σ} {state next : State σ}
    (stepped : step environment state = .running next) : ¬ Broken state := by
  intro broken
  obtain ⟨fault, after, failed, _⟩ := broken.fails environment
  rw [stepped] at failed
  cases failed

end Machine

end Stencil

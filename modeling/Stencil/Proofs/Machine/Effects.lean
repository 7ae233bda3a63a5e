import Stencil.Proofs.Machine.Broken
import Stencil.Proofs.Machine.Moves
import Stencil.Proofs.Machine.Slots

/-!
# Effects of instructions

Where an instruction goes on and which slots it writes can be read off the instruction. A step that
stays in its activation changes no more of the activation and of the slots than that.
-/

namespace Stencil

namespace Op

/-- Whether an instruction starts another activation. -/
def calls : Op → Bool
  | callMacro _ | inclusion | wrapper => true
  | _ => false

end Op

namespace Machine

variable {σ : Type}

/-- Where an instruction may go on: at the next one, or where it jumps to. -/
inductive Goes (op : Op) (ip : Nat) : Nat → Prop where
  | onward (going : op ≠ .halt) : Goes op ip (ip + 1)
  | across {offset : Int} {target : Nat} (jumps : op.jump? = some offset)
      (reached : jumpTarget? ip offset = some target) : Goes op ip target

/-- What an instruction does to its activation and to all slots when it stays in the activation. -/
structure Works (op : Op) (state next : State σ) : Prop where
  goes : Goes op state.current.ip next.current.ip
  base : next.current.base = state.current.base
  longer : state.slots.length ≤ next.slots.length
  values : ∀ place, (∀ slot ∈ op.writes, slotAt state.current.base slot ≠ place) →
    next.valueAt place = state.valueAt place
  bindings : next.current.bindings = state.current.bindings
  origin : next.current.origin = state.current.origin

namespace Works

variable {op : Op} {state next : State σ}

/-- An instruction that goes on at the next one and leaves all slots alone. -/
theorem onward (going : op ≠ .halt) (current : next.current = state.current.advance)
    (slots : next.slots = state.slots) : Works op state next := by
  refine ⟨?_, ?_, slots ▸ Nat.le_refl _, fun place _ => ?_, ?_, ?_⟩
  · rw [current]
    exact .onward going
  · rw [current]
    rfl
  · rw [State.valueAt, slots, State.valueAt]
  · rw [current]
    rfl
  · rw [current]
    rfl

theorem jump {offset : Int} {target : Nat} (jumps : op.jump? = some offset)
    (reached : jumpTarget? state.current.ip offset = some target) :
    Works op state { state with current := { state.current with ip := target } } :=
  ⟨.across jumps reached, rfl, Nat.le_refl _, fun _ _ => rfl, rfl, rfl⟩

/-- An instruction may write its slots before it goes on. -/
theorem save {slot : Nat} {value : Value} (works : Works op (state.save slot value) next)
    (written : slot ∈ op.writes) : Works op state next := by
  refine ⟨works.goes, works.base, Nat.le_trans (length_le_setSlot _ _ value) works.longer, ?_,
    works.bindings, works.origin⟩
  intro place spared
  rw [works.values place spared]
  exact setSlot_other value (spared slot written).symm

/-- Slots that are small and not written keep their values. -/
theorem load (works : Works op state next) (narrow : op.Narrow) {slot : Nat}
    (small : slot < 0x8000000000000000) (spared : slot ∉ op.writes) :
    next.load slot = state.load slot := by
  rw [State.load, works.base]
  refine works.values _ fun other written => ?_
  rw [slotAt_of_lt _ small, slotAt_of_lt _ (narrow other (Op.mem_slots_of_mem_writes written))]
  intro same
  obtain rfl := Nat.add_left_cancel same
  exact spared written

end Works

/-! ## Steps that stay -/

theorem works_of_write {op : Op} (going : op ≠ .halt) (state : State σ) (text : String) :
    Works op state (state.write text).advance := by
  unfold State.write
  split
  · exact .onward going rfl rfl
  · exact .onward going rfl rfl

theorem works_of_change {environment : Environment σ} {op : Op} {change : State σ → State σ}
    (changes : change? environment op = some change) (state : State σ) :
    Works op state (change state) := by
  cases op with
  | print =>
      cases changes
      show Works _ _ (printAccumulator state).advance
      unfold printAccumulator
      split
      · exact .onward nofun rfl rfl
      · exact works_of_write (by nofun) state _
      · exact works_of_write (by nofun) state _
  | printRaw =>
      cases changes
      exact works_of_write (by nofun) state _
  | printText text =>
      cases changes
      exact works_of_write (by nofun) state text
  | saveLocal slot =>
      cases changes
      exact Works.save (.onward nofun rfl rfl) List.mem_cons_self
  | forStart slot =>
      cases changes
      have begun (items : List Value) (first : State σ) : Works (.forStart slot) first
          (((first.save slot .nil).save (slot + 1) (.int (-1))).save (slot + 2)
            (.list items)).advance := by
        refine .save (.save (.save (.onward nofun rfl rfl) ?_) ?_) ?_
        all_goals simp [Op.writes]
      have started : Works (.forStart slot) { state with accumulator := .nil }
          (startLoop state slot) := begun _ _
      exact ⟨started.goes, started.base, started.longer, started.values, started.bindings,
        started.origin⟩
  | loopGuard slot max =>
      cases changes
      show Works _ state (guardLoop state slot max)
      unfold guardLoop
      dsimp only
      split
      · exact Works.save (.onward nofun rfl rfl) List.mem_cons_self
      · exact Works.save (.onward nofun rfl rfl) List.mem_cons_self
  | halt => cases changes
  | _ => cases changes <;> exact .onward nofun rfl rfl

/-- An instruction that may fail goes on at the next one unless it does. -/
theorem works_of_attempt {environment : Environment σ} {op : Op}
    {attempt : State σ → Except Fault (State σ)} (attempts : attempt? environment op = some attempt)
    {state next : State σ} (done : attempt state = .ok next) : Works op state next := by
  cases op with
  | popToSecond =>
      cases attempts
      obtain ⟨⟨value, popped⟩, found, ⟨⟩⟩ := bind_eq_ok.mp done
      obtain ⟨rest, rfl⟩ := pop_cases found
      exact .onward nofun rfl rfl
  | pop =>
      cases attempts
      obtain ⟨⟨value, popped⟩, found, ⟨⟩⟩ := bind_eq_ok.mp done
      obtain ⟨rest, rfl⟩ := pop_cases found
      exact .onward nofun rfl rfl
  | fetchField name =>
      cases attempts
      obtain ⟨value, _, ⟨⟩⟩ := bind_eq_ok.mp done
      exact .onward nofun rfl rfl
  | filter name =>
      cases attempts
      obtain ⟨value, _, ⟨⟩⟩ := bind_eq_ok.mp done
      exact .onward nofun rfl rfl
  | div | mod | range =>
      cases attempts
      obtain ⟨value, _, ⟨⟩⟩ := bind_eq_ok.mp done
      exact .onward nofun rfl rfl
  | makeList | makeMap =>
      cases attempts
      obtain ⟨operands, marks, value, rfl⟩ := collect_cases done
      exact .onward nofun rfl rfl
  | callFunction name =>
      cases attempts
      obtain ⟨operands, marks, value, rfl⟩ := collect_cases done
      exact .onward nofun rfl rfl
  | callMethod name =>
      cases attempts
      obtain ⟨operands, marks, value, rfl⟩ := collect_cases done
      exact .onward nofun rfl rfl
  | endCapture =>
      cases attempts
      unfold endCapture at done
      split at done
      · cases done
      · cases done
        exact .onward nofun rfl rfl
  | _ => cases attempts

theorem works_of_jump {op : Op} {state next : State σ} {offset : Int}
    (jumps : op.jump? = some offset) (jumped : jump state offset = .running next) :
    Works op state next := by
  obtain ⟨_, reached, rfl⟩ := jump_eq_running jumped
  exact .jump jumps reached

theorem works_of_jumpIf {op : Op} {state next : State σ} {condition : Bool} {offset : Int}
    (jumps : op.jump? = some offset) (going : op ≠ .halt)
    (jumped : jumpIf state condition offset = .running next) : Works op state next := by
  unfold jumpIf at jumped
  split at jumped
  · exact works_of_jump jumps jumped
  · cases jumped
    exact .onward going rfl rfl

theorem works_of_nextElement {state next : State σ} {slot max : Nat} {exit : Int}
    (moved : nextElement state slot max exit = .running next) :
    Works (.forNext slot max exit) state next := by
  unfold nextElement at moved
  dsimp only at moved
  split at moved
  · split at moved
    · have works := @works_of_jump _ (.forNext slot max exit) (state.warn _) _ _ rfl moved
      exact ⟨works.goes, works.base, works.longer, works.values, works.bindings, works.origin⟩
    · cases moved
      refine Works.save (Works.save (.onward nofun rfl rfl) ?_) ?_
      · simp [Op.writes]
      · simp [Op.writes]
  · exact works_of_jump rfl moved

/-! ## All steps -/

/-- What a step does, by the instruction that it takes. -/
inductive Effect (environment : Environment σ) (op : Op) (state next : State σ) : Prop where
  | stays (stays : Stays state next) (works : Works op state next)
      (own : op.calls = false)
  | enters (calls : op.calls = true) (enters : Enters environment state next)
  | leaves (halts : op = .halt) (leaves : Leaves state next)

theorem effect_of_step {environment : Environment σ} {state next : State σ} {op : Op}
    (found : state.current.ops[state.current.ip]? = some op)
    (stepped : step environment state = .running next) : Effect environment op state next := by
  cases changes : change? environment op with
  | some change =>
      rw [step_of_change found changes] at stepped
      cases stepped
      refine .stays (stays_of_change changes state) (works_of_change changes state) ?_
      cases op <;> first | rfl | cases changes
  | none =>
      cases attempts : attempt? environment op with
      | some attempt =>
          rw [step_of_attempt found changes attempts] at stepped
          split at stepped
          · next after done =>
              cases stepped
              refine .stays (stays_of_attempt attempts done) (works_of_attempt attempts done) ?_
              cases op <;> first | rfl | cases attempts
          · exact absurd stepped (fail_ne_running _ _ _)
      | none =>
          rw [step_of_transfer found changes attempts] at stepped
          cases op with
          | halt => exact .leaves rfl (leaves_of_leave stepped)
          | «and» offset =>
              exact .stays (stays_of_jumpIf stepped) (works_of_jumpIf rfl nofun stepped) rfl
          | «or» offset =>
              exact .stays (stays_of_jumpIf stepped) (works_of_jumpIf rfl nofun stepped) rfl
          | goto offset => exact .stays (stays_of_jump stepped) (works_of_jump rfl stepped) rfl
          | jumpIfFalse offset =>
              exact .stays (stays_of_jumpIf stepped) (works_of_jumpIf rfl nofun stepped) rfl
          | forNext slot max exit =>
              exact .stays (stays_of_nextElement stepped) (works_of_nextElement stepped) rfl
          | callMacro name => exact .enters rfl (enters_of_callMacro stepped)
          | inclusion => exact .enters rfl (enters_of_inclusion stepped)
          | wrapper => exact .enters rfl (enters_of_wrap stepped)
          | _ => first | (cases changes; done) | cases attempts

theorem op_of_step {environment : Environment σ} {state next : State σ}
    (stepped : step environment state = .running next) :
    ∃ op, state.current.ops[state.current.ip]? = some op := by
  cases found : state.current.ops[state.current.ip]? with
  | none =>
      rw [step, found] at stepped
      exact absurd stepped (fail_ne_running _ _ _)
  | some op => exact ⟨op, rfl⟩

end Machine

end Stencil

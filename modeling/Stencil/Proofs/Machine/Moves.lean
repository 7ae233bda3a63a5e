import Stencil.Proofs.Machine.Failures
import Stencil.Proofs.Machine.Path
import Stencil.Proofs.Results

/-!
# Moves between activations

Most steps stay in their activation and leave the callers alone. The others enter an activation
that is called or go back to a caller.
-/

namespace Stencil.Machine

variable {σ : Type}

/-- A step that stays in its activation. -/
structure Stays (state next : State σ) : Prop where
  code : next.current.code = state.current.code
  ops : next.current.ops = state.current.ops
  base : next.current.base = state.current.base
  callers : next.callers = state.callers
  depth : next.depth = state.depth
  store : next.store = state.store

/-- A step into an activation that is called: a macro of the code, whose output is captured, or a
template from the loader. -/
structure Enters (environment : Environment σ) (state next : State σ) : Prop where
  begins : next.current.ip = 0
  /-- The new slots lie above all others. -/
  base : next.current.base = state.slots.length
  slots : state.slots <+: next.slots
  callers : next.callers = state.current :: state.callers
  depth : next.depth = state.depth + 1
  room : next.depth ≤ environment.limits.maxDepth
  callee :
    (∃ name body, next.current.origin = .callMacro name ∧
      Dictionary.find? state.current.code.macros name = some body ∧
      next.current.code = state.current.code ∧ next.current.ops = body.ops.toArray ∧
      next.captures = "" :: state.captures ∧ next.store = state.store) ∨
    ∃ load name, next.current.origin = .inclusion name ∧ environment.loader = some load ∧
      load name state.store = (.ok next.current.code, next.store) ∧
      next.current.ops = next.current.code.ops.toArray ∧ next.captures = state.captures

/-- A step back to the caller. -/
structure Leaves (state next : State σ) : Prop where
  caller : ∃ caller, state.callers = caller :: next.callers ∧ next.current = caller.advance
  slots : next.slots = state.slots.take state.current.base
  depth : next.depth = state.depth - 1
  store : next.store = state.store

namespace Stays

theorem refl (state : State σ) : Stays state state :=
  ⟨rfl, rfl, rfl, rfl, rfl, rfl⟩

theorem write (state : State σ) (text : String) : Stays state (state.write text) := by
  unfold State.write
  split
  · exact ⟨rfl, rfl, rfl, rfl, rfl, rfl⟩
  · exact ⟨rfl, rfl, rfl, rfl, rfl, rfl⟩

theorem advance {state next : State σ} (stays : Stays state next) : Stays state next.advance :=
  ⟨stays.code, stays.ops, stays.base, stays.callers, stays.depth, stays.store⟩

theorem yield {state next : State σ} (stays : Stays state next) (value : Value) :
    Stays state (next.yield value) :=
  ⟨stays.code, stays.ops, stays.base, stays.callers, stays.depth, stays.store⟩

end Stays

/-! ## Steps that stay -/

theorem stays_of_change {environment : Environment σ} {op : Op} {change : State σ → State σ}
    (changes : change? environment op = some change) (state : State σ) :
    Stays state (change state) := by
  cases op with
  | print =>
      cases changes
      refine Stays.advance ?_
      unfold printAccumulator
      split
      · exact ⟨rfl, rfl, rfl, rfl, rfl, rfl⟩
      · exact .write state _
      · exact .write state _
  | printRaw =>
      cases changes
      exact (Stays.write state _).advance
  | printText text =>
      cases changes
      exact (Stays.write state _).advance
  | loopGuard slot max =>
      cases changes
      refine Stays.yield ?_ _
      split
      · exact ⟨rfl, rfl, rfl, rfl, rfl, rfl⟩
      · exact ⟨rfl, rfl, rfl, rfl, rfl, rfl⟩
  | _ => cases changes <;> exact ⟨rfl, rfl, rfl, rfl, rfl, rfl⟩

theorem pop_cases {state next : State σ} {value : Value}
    (popped : state.pop = .ok (value, next)) : ∃ operands, next = { state with operands } := by
  unfold State.pop at popped
  split at popped
  · cases popped
    exact ⟨_, rfl⟩
  · cases popped

theorem popMarked_cases {state next : State σ} {values : List Value}
    (popped : state.popMarked = .ok (values, next)) :
    ∃ operands marks, next = { state with operands, marks } := by
  unfold State.popMarked at popped
  split at popped
  · cases popped
  · split at popped
    · cases popped
    · cases popped
      exact ⟨_, _, rfl⟩

theorem collect_cases {state next : State σ} {make : List Value → Answer}
    (collected : collect state make = .ok next) :
    ∃ operands marks value, next = ({ state with operands, marks } : State σ).yield value := by
  obtain ⟨⟨values, popped⟩, found, further⟩ := bind_eq_ok.mp collected
  obtain ⟨value, _, ⟨⟩⟩ := bind_eq_ok.mp further
  obtain ⟨operands, marks, rfl⟩ := popMarked_cases found
  exact ⟨operands, marks, value, rfl⟩

theorem stays_of_collect {state next : State σ} {make : List Value → Answer}
    (collected : collect state make = .ok next) : Stays state next := by
  obtain ⟨operands, marks, value, rfl⟩ := collect_cases collected
  exact ⟨rfl, rfl, rfl, rfl, rfl, rfl⟩

theorem stays_of_combineOrFail {state next : State σ} {operation : Value → Value → Answer}
    (combined : combineOrFail state operation = .ok next) : Stays state next := by
  obtain ⟨value, _, ⟨⟩⟩ := bind_eq_ok.mp combined
  exact (Stays.refl state).yield value

theorem stays_of_attempt {environment : Environment σ} {op : Op}
    {attempt : State σ → Except Fault (State σ)} (attempts : attempt? environment op = some attempt)
    {state next : State σ} (done : attempt state = .ok next) : Stays state next := by
  cases op with
  | popToSecond =>
      cases attempts
      obtain ⟨⟨value, popped⟩, found, ⟨⟩⟩ := bind_eq_ok.mp done
      obtain ⟨operands, rfl⟩ := pop_cases found
      exact ⟨rfl, rfl, rfl, rfl, rfl, rfl⟩
  | pop =>
      cases attempts
      obtain ⟨⟨value, popped⟩, found, ⟨⟩⟩ := bind_eq_ok.mp done
      obtain ⟨operands, rfl⟩ := pop_cases found
      exact ⟨rfl, rfl, rfl, rfl, rfl, rfl⟩
  | fetchField name =>
      cases attempts
      obtain ⟨value, _, ⟨⟩⟩ := bind_eq_ok.mp done
      exact (Stays.refl state).yield value
  | filter name =>
      cases attempts
      obtain ⟨value, _, ⟨⟩⟩ := bind_eq_ok.mp done
      exact (Stays.refl state).yield value
  | div => cases attempts; exact stays_of_combineOrFail done
  | mod => cases attempts; exact stays_of_combineOrFail done
  | range => cases attempts; exact stays_of_combineOrFail done
  | makeList => cases attempts; exact stays_of_collect done
  | makeMap => cases attempts; exact stays_of_collect done
  | callFunction name => cases attempts; exact stays_of_collect done
  | callMethod name => cases attempts; exact stays_of_collect done
  | endCapture =>
      cases attempts
      unfold endCapture at done
      split at done
      · cases done
      · cases done
        exact ⟨rfl, rfl, rfl, rfl, rfl, rfl⟩
  | _ => cases attempts

/-- A jump changes the place and nothing else. -/
theorem jump_eq_running {state next : State σ} {offset : Int}
    (jumped : jump state offset = .running next) :
    ∃ target, jumpTarget? state.current.ip offset = some target ∧
      next = { state with current := { state.current with ip := target } } := by
  unfold jump at jumped
  split at jumped
  · next target reached =>
      split at jumped
      · cases jumped
        exact ⟨target, reached, rfl⟩
      · exact absurd jumped (fail_ne_running _ _ _)
  · exact absurd jumped (fail_ne_running _ _ _)

theorem stays_of_jump {state next : State σ} {offset : Int}
    (jumped : jump state offset = .running next) : Stays state next := by
  obtain ⟨_, _, rfl⟩ := jump_eq_running jumped
  exact ⟨rfl, rfl, rfl, rfl, rfl, rfl⟩

theorem stays_of_jumpIf {state next : State σ} {condition : Bool} {offset : Int}
    (jumped : jumpIf state condition offset = .running next) : Stays state next := by
  unfold jumpIf at jumped
  split at jumped
  · exact stays_of_jump jumped
  · cases jumped
    exact (Stays.refl state).advance

theorem stays_of_nextElement {state next : State σ} {slot max : Nat} {exit : Int}
    (moved : nextElement state slot max exit = .running next) : Stays state next := by
  unfold nextElement at moved
  dsimp only at moved
  split at moved
  · split at moved
    · have stays := stays_of_jump moved
      exact ⟨stays.code, stays.ops, stays.base, stays.callers, stays.depth, stays.store⟩
    · cases moved
      exact ⟨rfl, rfl, rfl, rfl, rfl, rfl⟩
  · exact stays_of_jump moved

/-! ## Calls and returns -/

theorem enter_cases {environment : Environment σ} {state next : State σ} {name : String}
    {callee : Activation} {arguments : List Value}
    (entered : enter environment state name callee arguments = .running next) :
    state.depth + 1 ≤ environment.limits.maxDepth ∧
      next = { state with depth := state.depth + 1 }.call callee arguments := by
  unfold enter at entered
  dsimp only at entered
  split at entered
  · exact absurd entered (fail_ne_running _ _ _)
  · next vacant =>
      cases entered
      exact ⟨Nat.not_lt.mp vacant, rfl⟩

/-- A macro that is called begins with its arguments. -/
theorem callMacro_cases {environment : Environment σ} {state next : State σ} {name : String}
    (called : callMacro environment state name = .running next) :
    ∃ arguments popped body, state.popMarked = .ok (arguments, popped) ∧
      Dictionary.find? state.current.code.macros name = some body ∧
      body.parameters.length = arguments.length ∧
      state.depth + 1 ≤ environment.limits.maxDepth ∧
      next = { popped with depth := state.depth + 1 }.call
        ⟨.callMacro name, state.current.code, body.ops.toArray, 0, 0, none⟩ arguments := by
  unfold callMacro at called
  split at called
  · exact absurd called (fail_ne_running _ _ _)
  · next arguments popped found =>
      obtain ⟨operands, marks, rfl⟩ := popMarked_cases found
      dsimp only at called
      split at called
      · exact absurd called (fail_ne_running _ _ _)
      · next body known =>
          split at called
          · exact absurd called (fail_ne_running _ _ _)
          · next fitting =>
              obtain ⟨room, rfl⟩ := enter_cases called
              exact ⟨arguments, _, body, found, known, Decidable.not_not.mp fitting, room, rfl⟩

/-- A template that is included begins without slots. -/
theorem runTemplate_cases {environment : Environment σ} {state next : State σ} {name : String}
    {bindings : Option (Dictionary Value)}
    (started : runTemplate environment state name bindings = .running next) :
    ∃ load code store, environment.loader = some load ∧
      load name state.store = (.ok code, store) ∧
      state.depth + 1 ≤ environment.limits.maxDepth ∧
      next = { state with depth := state.depth + 1, store }.call
        ⟨.inclusion name, code, code.ops.toArray, 0, 0, bindings⟩ [] := by
  unfold runTemplate at started
  split at started
  · exact absurd started (fail_ne_running _ _ _)
  · next load present =>
      split at started
      · exact absurd started (raise_ne_running _ _ _)
      · next code store found =>
          obtain ⟨room, rfl⟩ := enter_cases started
          exact ⟨load, code, store, present, found, room, rfl⟩

/-- A template that is wrapped around a content finds it on the operand stack. -/
theorem wrap_cases {environment : Environment σ} {state next : State σ}
    (wrapped : wrap environment state = .running next) :
    ∃ content rest bindings, state.operands = content :: rest ∧
      runTemplate environment { state with operands := rest, second := .nil }
        state.accumulator.display bindings = .running next := by
  unfold wrap State.pop at wrapped
  cases stacked : state.operands with
  | nil =>
      rw [stacked] at wrapped
      exact absurd wrapped (fail_ne_running _ _ _)
  | cons content rest =>
      rw [stacked] at wrapped
      exact ⟨content, rest, _, rfl, wrapped⟩

theorem enters_of_callMacro {environment : Environment σ} {state next : State σ} {name : String}
    (called : callMacro environment state name = .running next) :
    Enters environment state next := by
  obtain ⟨arguments, popped, body, found, known, _, room, rfl⟩ := callMacro_cases called
  obtain ⟨operands, marks, rfl⟩ := popMarked_cases found
  exact ⟨rfl, rfl, List.prefix_append _ _, rfl, rfl, room,
    .inl ⟨name, body, rfl, known, rfl, rfl, rfl, rfl⟩⟩

theorem enters_of_runTemplate {environment : Environment σ} {state next : State σ} {name : String}
    {bindings : Option (Dictionary Value)}
    (started : runTemplate environment state name bindings = .running next) :
    Enters environment state next := by
  obtain ⟨load, code, store, present, found, room, rfl⟩ := runTemplate_cases started
  exact ⟨rfl, rfl, List.prefix_append _ _, rfl, rfl, room,
    .inr ⟨load, name, rfl, present, found, rfl, rfl⟩⟩

theorem enters_of_inclusion {environment : Environment σ} {state next : State σ}
    (started : transfer environment state .inclusion = .running next) :
    Enters environment state next := by
  have entered := enters_of_runTemplate started
  exact ⟨entered.begins, entered.base, entered.slots, entered.callers, entered.depth, entered.room,
    entered.callee⟩

theorem enters_of_wrap {environment : Environment σ} {state next : State σ}
    (wrapped : wrap environment state = .running next) : Enters environment state next := by
  obtain ⟨content, rest, bindings, _, started⟩ := wrap_cases wrapped
  have entered := enters_of_runTemplate started
  exact ⟨entered.begins, entered.base, entered.slots, entered.callers, entered.depth, entered.room,
    entered.callee⟩

theorem leaves_of_leave {state next : State σ} (left : leave state = .running next) :
    Leaves state next := by
  unfold leave at left
  split at left
  · cases left
  · next caller callers waiting =>
      cases left
      exact ⟨⟨caller, waiting, rfl⟩, rfl, rfl, rfl⟩

end Stencil.Machine

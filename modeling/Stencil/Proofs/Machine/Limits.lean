import Stencil.Proofs.Machine.Failures
import Stencil.Proofs.Machine.Path
import Stencil.Proofs.Machine.Ranges

/-!
# Limits

A limit shows in a run only where it refuses a call or a range. A run that is never refused goes
through the same states when the limits are raised, and ends in the same way.
-/

namespace Stencil

/-- A limit was reached. -/
def Fault.IsRefusal : Fault → Prop
  | rangeTooLong .. | callTooDeep .. => True
  | _ => False

def Failure.IsRefusal : Failure → Prop
  | run error => error.fault.IsRefusal
  | _ => False

namespace Machine

variable {σ : Type}

/-- The outcome is a failure because a limit was reached. -/
def Outcome.Refused : Outcome σ → Prop
  | failed failure _ => failure.IsRefusal
  | _ => False

theorem Outcome.Refused.ending {outcome : Outcome σ} (refused : outcome.Refused) :
    ∃ failure, outcome.ending = .failed failure ∧ failure.IsRefusal := by
  cases outcome with
  | failed failure state => exact ⟨failure, rfl, refused⟩
  | running state => exact refused.elim
  | finished state => exact refused.elim

theorem refused_fail {state : State σ} {fault : Fault} (refusal : fault.IsRefusal) :
    (fail state fault).Refused := by
  rw [fail_eq]
  exact refusal

/-- Neither limit is greater than the other one of its kind. -/
structure Limits.Within (limits higher : Limits) : Prop where
  depth : limits.maxDepth ≤ higher.maxDepth
  range : limits.maxRange ≤ higher.maxRange

/-- The environment with other limits. -/
def Environment.limitedTo (environment : Environment σ) (limits : Limits) : Environment σ :=
  { environment with limits }

variable {environment : Environment σ} {limits : Limits} {state : State σ}

@[simp] theorem limits_limitedTo : (environment.limitedTo limits).limits = limits := rfl

@[simp] theorem loader_limitedTo :
    (environment.limitedTo limits).loader = environment.loader := rfl

/-! ## Instructions that no limit applies to -/

theorem change?_limitedTo (environment : Environment σ) (limits : Limits) (op : Op) :
    change? (environment.limitedTo limits) op = change? environment op := by
  cases op <;> rfl

theorem attempt?_limitedTo (environment : Environment σ) (limits : Limits) {op : Op}
    (other : op ≠ .range) :
    attempt? (environment.limitedTo limits) op = attempt? environment op := by
  cases op with
  | range => exact absurd rfl other
  | _ => rfl

/-! ## Instructions that may be refused -/

section

variable (within : environment.limits.Within limits)

include within

/-- A range that is not refused is the same below a higher limit. -/
theorem range_raised (first last : Int) :
    range limits first last = range environment.limits first last ∨
      ∃ fault, range environment.limits first last = .error fault ∧ fault.IsRefusal := by
  have higher := within.range
  unfold range
  dsimp only
  by_cases long : environment.limits.maxRange < (last - first + 1).toNat
  · rw [if_pos long]
    exact .inr ⟨_, rfl, trivial⟩
  · rw [if_neg long, if_neg (by omega)]
    exact .inl rfl

theorem step_range_raised (found : state.current.ops[state.current.ip]? = some .range)
    (unrefused : ¬ (step environment state).Refused) :
    step (environment.limitedTo limits) state = step environment state := by
  rw [step_of_range found] at unrefused ⊢
  rw [step_of_range found, limits_limitedTo]
  obtain same | ⟨fault, failed, refused⟩ :=
    range_raised within state.second.toInteger state.accumulator.toInteger
  · rw [same]
  · rw [failed] at unrefused
    exact absurd (refused_fail refused) unrefused

theorem enter_raised {name : String} {callee : Activation} {arguments : List Value}
    (unrefused : ¬ (enter environment state name callee arguments).Refused) :
    enter (environment.limitedTo limits) state name callee arguments =
      enter environment state name callee arguments := by
  have higher := within.depth
  unfold enter at unrefused ⊢
  dsimp only at unrefused ⊢
  by_cases deep : environment.limits.maxDepth < state.depth + 1
  · have refusal : (Fault.callTooDeep environment.limits.maxDepth name).IsRefusal := trivial
    rw [if_pos deep] at unrefused
    exact absurd (refused_fail refusal) unrefused
  · rw [if_neg deep, limits_limitedTo, if_neg (by omega)]

theorem callMacro_raised {name : String}
    (unrefused : ¬ (callMacro environment state name).Refused) :
    callMacro (environment.limitedTo limits) state name = callMacro environment state name := by
  unfold callMacro at unrefused ⊢
  cases popping : state.popMarked with
  | error fault => rfl
  | ok popped =>
      rw [popping] at unrefused
      dsimp only at unrefused ⊢
      cases found : Dictionary.find? state.current.code.macros name with
      | none => rfl
      | some body =>
          rw [found] at unrefused
          dsimp only at unrefused ⊢
          by_cases fitting : body.parameters.length ≠ popped.1.length
          · rw [if_pos fitting, if_pos fitting]
          · rw [if_neg fitting] at unrefused
            rw [if_neg fitting, if_neg fitting]
            exact enter_raised within unrefused

theorem runTemplate_raised {name : String} {bindings : Option (Dictionary Value)}
    (unrefused : ¬ (runTemplate environment state name bindings).Refused) :
    runTemplate (environment.limitedTo limits) state name bindings =
      runTemplate environment state name bindings := by
  unfold runTemplate at unrefused ⊢
  rw [loader_limitedTo]
  cases present : environment.loader with
  | none => rfl
  | some load =>
      rw [present] at unrefused
      dsimp only at unrefused ⊢
      revert unrefused
      rcases load name state.store with ⟨failure | code, store⟩
      · exact fun _ => rfl
      · exact enter_raised within

theorem wrap_raised (unrefused : ¬ (wrap environment state).Refused) :
    wrap (environment.limitedTo limits) state = wrap environment state := by
  unfold wrap at unrefused ⊢
  cases popping : state.pop with
  | error fault => rfl
  | ok popped =>
      rw [popping] at unrefused
      exact runTemplate_raised within unrefused

theorem transfer_raised {op : Op} (unrefused : ¬ (transfer environment state op).Refused) :
    transfer (environment.limitedTo limits) state op = transfer environment state op := by
  cases op with
  | callMacro name => exact callMacro_raised within unrefused
  | inclusion => exact runTemplate_raised within unrefused
  | wrapper => exact wrap_raised within unrefused
  | _ => rfl

/-! ## Runs -/

/-- A step that no limit refuses is the same below higher limits. -/
theorem step_raised (unrefused : ¬ (step environment state).Refused) :
    step (environment.limitedTo limits) state = step environment state := by
  cases found : state.current.ops[state.current.ip]? with
  | none =>
      unfold step
      rw [found]
  | some op =>
      by_cases ranging : op = .range
      · subst ranging
        exact step_range_raised within found unrefused
      · unfold step at unrefused ⊢
        rw [found] at unrefused ⊢
        dsimp only at unrefused ⊢
        rw [change?_limitedTo, attempt?_limitedTo _ _ ranging]
        split
        · rfl
        · next unchanging =>
          rw [unchanging] at unrefused
          dsimp only at unrefused
          split
          · rfl
          · next attemptless =>
            rw [attemptless] at unrefused
            exact transfer_raised within unrefused

/-- By induction on the allowance: until the last step the run goes on, so that no step before it is
refused. -/
theorem runFor_raised {allowance : Nat}
    (unrefused : ¬ (runFor environment allowance state).Refused) :
    runFor (environment.limitedTo limits) allowance state = runFor environment allowance state := by
  induction allowance generalizing state with
  | zero => rfl
  | succ allowance ih =>
      rw [runFor] at unrefused ⊢
      cases stepped : step environment state with
      | running next =>
          rw [stepped] at unrefused
          rw [runFor, step_raised within (by rw [stepped]; exact id), stepped]
          exact ih unrefused
      | finished last =>
          rw [runFor, step_raised within (by rw [stepped]; exact id), stepped]
      | failed failure last =>
          rw [stepped] at unrefused
          rw [runFor, step_raised within (by rw [stepped]; exact unrefused), stepped]

end

/-- Whatever ends a run of any code, unless that is a limit, ends it in the same way, after the same
steps and in the same state, when limits are raised. -/
theorem raised_limits_agree (within : environment.limits.Within limits) (code : Code) (store : σ) :
    (∀ allowance, ¬ (runFor environment allowance (start code store)).Refused →
      runFor (environment.limitedTo limits) allowance (start code store) =
        runFor environment allowance (start code store)) ∧
    ∀ report after, Ends environment code store report after →
      (∀ failure, report.ending = .failed failure → ¬ failure.IsRefusal) →
        Ends (environment.limitedTo limits) code store report after := by
  refine ⟨fun allowance => runFor_raised within, ?_⟩
  rintro report after ⟨allowance, ended, rfl, rfl⟩ other
  refine ⟨allowance, ?_⟩
  rw [runFor_raised within]
  · exact ⟨ended, rfl, rfl⟩
  · intro refused
    obtain ⟨failure, failed, limited⟩ := refused.ending
    exact other failure failed limited

/-- Code that prints a range of three elements and calls a macro. -/
def crowded : Code where
  name := "t"
  generatedAt := ⟨0⟩
  ops := [.literal (.int 1), .moveToSecond, .literal (.int 3), .range, .print, .pushMark,
    .callMacro "m", .print, .halt]
  macros := [("m", ⟨[], [.printText " in", .halt]⟩)]

/-- The limits that are reached and not exceeded. -/
def crowding : Environment Unit :=
  ⟨.builtins, ⟨1, 3⟩, none, []⟩

theorem crowded_agrees :
    (runFor crowding 12 (start crowded ())).report = ⟨.finished, "[1, 2, 3] in", []⟩ ∧
      runFor (crowding.limitedTo .standard) 12 (start crowded ()) =
        runFor crowding 12 (start crowded ()) ∧
      Ends (crowding.limitedTo .standard) crowded () ⟨.finished, "[1, 2, 3] in", []⟩ () := by
  have shown : (runFor crowding 12 (start crowded ())).report =
      ⟨.finished, "[1, 2, 3] in", []⟩ := by
    decide +kernel
  have finished : (runFor crowding 12 (start crowded ())).ending = .finished :=
    congrArg Report.ending shown
  have within : crowding.limits.Within .standard := ⟨by decide, by decide⟩
  have ends : Ends crowding crowded () ⟨.finished, "[1, 2, 3] in", []⟩ () :=
    ⟨12, by rw [Outcome.Ended, finished]; nofun, shown, rfl⟩
  obtain ⟨same, sameEnd⟩ := raised_limits_agree within crowded ()
  refine ⟨shown, same 12 fun refused => ?_, sameEnd _ _ ends nofun⟩
  obtain ⟨failure, failed, _⟩ := refused.ending
  exact nomatch finished.symm.trans failed

end Machine

end Stencil

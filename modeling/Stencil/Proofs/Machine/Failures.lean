import Stencil.Machine.Run

/-!
# Failures on their way out

A failure passes out of the activation in which it arises and of all that wait for it. On its way
the calls under way are added to it, one after the other; what was printed and told stays.
-/

namespace Stencil

/-- A failure that has passed out of some calls, the innermost first. Only errors of runs tell of
calls. -/
def Failure.out (calls : List String) : Failure → Failure
  | run error => run ⟨error.fault, error.trace ++ calls⟩
  | other => other

theorem Failure.out_within (failure : Failure) (call : String) (calls : List String) :
    (failure.within call).out calls = failure.out (call :: calls) := by
  cases failure with
  | run error =>
      rw [within, out, RunError.within, List.append_assoc]
      rfl
  | _ => rfl

theorem Failure.within_eq_out (failure : Failure) (call : String) :
    failure.within call = failure.out [call] := by
  cases failure <;> rfl

namespace Machine

variable {σ : Type}

namespace State

/-- The calls under way, the innermost first. -/
def trace (state : State σ) : List String :=
  (state.current :: state.callers).map (·.origin.label)

/-- What is left of a state when the current activation and some that wait for it have ended. -/
def unwoundBy (state : State σ) : List Activation → State σ
  | [] => state
  | caller :: callers => (state.giveBack caller callers).unwoundBy callers

def unwound (state : State σ) : State σ :=
  state.unwoundBy state.callers

/-- What a run shows and keeps beside its machine. -/
structure Shows (state shown : State σ) : Prop where
  output : shown.output = state.output
  warnings : shown.warnings = state.warnings
  store : shown.store = state.store

theorem shows_unwoundBy (state : State σ) (callers : List Activation) :
    state.Shows (state.unwoundBy callers) := by
  induction callers generalizing state with
  | nil => exact ⟨rfl, rfl, rfl⟩
  | cons caller callers ih =>
      have further := ih (state.giveBack caller callers)
      exact ⟨further.output, further.warnings, further.store⟩

/-- Unwinding changes nothing that a run shows. -/
theorem shows_unwound (state : State σ) : state.Shows state.unwound :=
  state.shows_unwoundBy state.callers

end State

theorem raiseThrough_eq (failure : Failure) (state : State σ) (callers : List Activation) :
    raiseThrough failure state callers = .failed
      (failure.out ((state.current :: callers).map (·.origin.label)))
      (state.unwoundBy callers) := by
  induction callers generalizing failure state with
  | nil =>
      rw [raiseThrough, Failure.within_eq_out]
      rfl
  | cons caller callers ih =>
      rw [raiseThrough, ih, Failure.out_within]
      rfl

/-- A failure comes out of a run with the calls that were under way. -/
theorem raise_eq (failure : Failure) (state : State σ) :
    raise failure state = .failed (failure.out state.trace) state.unwound :=
  raiseThrough_eq failure state state.callers

theorem fail_eq (state : State σ) (fault : Fault) :
    fail state fault = .failed (.run ⟨fault, state.trace⟩) state.unwound := by
  rw [fail, raise_eq, Failure.out, List.nil_append]

theorem raise_ne_running (failure : Failure) (state next : State σ) :
    raise failure state ≠ .running next := by
  rw [raise_eq]
  exact nofun

theorem fail_ne_running (state next : State σ) (fault : Fault) :
    fail state fault ≠ .running next :=
  raise_ne_running _ state next

end Machine

end Stencil

import Stencil.Machine.Step

/-!
# Runs

A run repeats steps until the code ends or fails. Since code may go round for ever, it is given an
allowance of steps; a run that uses it up is neither finished nor failed.
-/

namespace Stencil.Machine

variable {σ : Type}

/-- The state in which the code of a template begins to run. -/
def start (code : Code) (store : σ) : State σ where
  accumulator := .nil
  second := .nil
  operands := []
  marks := []
  slots := []
  current := ⟨.start code.name, code, code.ops.toArray, 0, 0, none⟩
  callers := []
  captures := []
  depth := 0
  made := 0
  output := ""
  warnings := #[]
  store := store

/-- At most `allowance` steps. -/
def runFor (environment : Environment σ) : Nat → State σ → Outcome σ
  | 0, state => .running state
  | allowance + 1, state =>
      match step environment state with
      | .running next => runFor environment allowance next
      | ended => ended

/-- More steps than any run takes time for. -/
def patience : Nat := 0x4000000000000000

inductive Ending where
  | finished
  | failed (failure : Failure)
  | unfinished
deriving Repr, DecidableEq

/-- What a run shows: how it ended, what it printed up to then, and its warnings in order. -/
structure Report where
  ending : Ending
  output : String
  warnings : List Warning
deriving Repr, DecidableEq

namespace Outcome

def state : Outcome σ → State σ
  | running state => state
  | finished state => state
  | failed _ state => state

def ending : Outcome σ → Ending
  | running _ => .unfinished
  | finished _ => .finished
  | failed failure _ => .failed failure

def report (outcome : Outcome σ) : Report :=
  ⟨outcome.ending, outcome.state.output, outcome.state.warnings.toList⟩

end Outcome

/-- Runs the code of a template to its end. -/
def run (environment : Environment σ) (code : Code) (store : σ) : Report × σ :=
  let outcome := runFor environment patience (start code store)
  (outcome.report, outcome.state.store)

end Stencil.Machine

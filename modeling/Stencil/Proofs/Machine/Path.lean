import Stencil.Machine.Run

/-!
# Paths of the machine

A path is a sequence of steps through states of some kind. Since a state has at most one successor,
two paths of the same length from one state end alike, and a run that ends cannot be passed by.
-/

namespace Stencil.Machine

variable {σ : Type}

/-- So many steps lead from the first state to the last, all of them from states of a kind. -/
inductive Path (environment : Environment σ) (kind : State σ → Prop) :
    Nat → State σ → State σ → Prop where
  | here (state : State σ) : Path environment kind 0 state state
  | step {count : Nat} {first next last : State σ} (inside : kind first)
      (stepped : Machine.step environment first = .running next)
      (rest : Path environment kind count next last) :
      Path environment kind (count + 1) first last

namespace Path

variable {environment : Environment σ} {kind other : State σ → Prop}
  {count more : Nat} {first middle last : State σ}

theorem trans (begun : Path environment kind count first middle)
    (continued : Path environment kind more middle last) :
    Path environment kind (count + more) first last := by
  induction begun with
  | here state => simpa using continued
  | step inside stepped _ ih =>
      rw [Nat.add_right_comm]
      exact .step inside stepped (ih continued)

theorem last_eq {end₁ end₂ : State σ} (path : Path environment kind count first end₁)
    (alike : Path environment other count first end₂) : end₁ = end₂ := by
  induction path with
  | here state => cases alike; rfl
  | step _ stepped _ ih =>
      cases alike with
      | step _ stepped' rest' =>
          rw [stepped] at stepped'
          cases stepped'
          exact ih rest'

/-- A path has states of its kind at every place before its end. -/
theorem split (path : Path environment kind count first last) {place : Nat}
    (before : place < count) :
    ∃ middle, Path environment kind place first middle ∧ kind middle ∧
      Path environment kind (count - place) middle last := by
  induction path generalizing place with
  | here state => exact absurd before (Nat.not_lt_zero place)
  | @step count first next last inside stepped rest ih =>
      cases place with
      | zero => exact ⟨first, .here first, inside, .step inside stepped rest⟩
      | succ place =>
          obtain ⟨middle, begun, reached, continued⟩ := ih (Nat.lt_of_succ_lt_succ before)
          rw [Nat.add_sub_add_right]
          exact ⟨middle, .step inside stepped begun, reached, continued⟩

theorem runFor_eq (path : Path environment kind count first last) (allowance : Nat) :
    runFor environment (count + allowance) first = runFor environment allowance last := by
  induction path with
  | here state => rw [Nat.zero_add]
  | step _ stepped _ ih =>
      rw [Nat.add_right_comm, runFor, stepped]
      exact ih

/-- Where the next step leads decides how a path ends a run. -/
theorem runFor_ended (path : Path environment kind count first last) {failure : Failure}
    {after : State σ} (failed : Machine.step environment last = .failed failure after)
    (allowance : Nat) :
    runFor environment (count + 1 + allowance) first = .failed failure after := by
  rw [Nat.add_assoc, path.runFor_eq, Nat.add_comm, runFor, failed]

/-- A path of a kind goes no further than one that leaves the kind. -/
theorem le_of_exit {end₁ end₂ : State σ} (path : Path environment kind count first end₁)
    (inside : Path environment kind more first end₂) (out : ¬ kind end₁) : more ≤ count := by
  induction path generalizing more with
  | here state =>
      cases inside with
      | here _ => exact Nat.le_refl 0
      | step within _ _ => exact absurd within out
  | step _ stepped _ ih =>
      cases inside with
      | here _ => exact Nat.zero_le _
      | step _ stepped' rest' =>
          rw [stepped] at stepped'
          cases stepped'
          exact Nat.succ_le_succ (ih rest' out)

/-- Two paths of a kind leave it at one place. -/
theorem exit_eq {end₁ end₂ : State σ} (path : Path environment kind count first end₁)
    (alike : Path environment kind more first end₂) (out : ¬ kind end₁) (out' : ¬ kind end₂) :
    end₁ = end₂ := by
  obtain rfl := Nat.le_antisymm (alike.le_of_exit path out') (path.le_of_exit alike out)
  exact path.last_eq alike

/-- A longer path goes on where a shorter one ends. -/
theorem step_of_lt {end₁ end₂ : State σ} (path : Path environment kind count first end₁)
    (alike : Path environment other more first end₂) (shorter : more < count) :
    ∃ next, Machine.step environment end₂ = .running next := by
  obtain ⟨_, begun, _, continued⟩ := path.split shorter
  obtain rfl := alike.last_eq begun
  obtain ⟨rest, remains⟩ := Nat.exists_eq_add_of_lt shorter
  rw [remains, Nat.add_assoc, Nat.add_sub_cancel_left] at continued
  cases continued with
  | step _ stepped _ => exact ⟨_, stepped⟩

theorem mono (path : Path environment kind count first last)
    (weaker : ∀ state, kind state → other state) : Path environment other count first last := by
  induction path with
  | here state => exact .here state
  | step within stepped _ ih => exact .step (weaker _ within) stepped ih

/-- A path that leaves some states goes through them up to a first state that is none of them. -/
theorem first_exit (path : Path environment kind count first last) (out : ¬ other last) :
    ∃ begun rest middle, count = begun + rest ∧
      Path environment (fun state => kind state ∧ other state) begun first middle ∧
      ¬ other middle ∧ Path environment kind rest middle last := by
  induction path with
  | here state => exact ⟨0, 0, state, rfl, .here state, out, .here state⟩
  | @step count first next last within stepped rest ih =>
      by_cases here : other first
      · obtain ⟨begun, remaining, middle, rfl, through, left, further⟩ := ih out
        exact ⟨begun + 1, remaining, middle, Nat.add_right_comm _ _ _,
          .step ⟨within, here⟩ stepped through, left, further⟩
      · exact ⟨0, count + 1, first, (Nat.zero_add _).symm, .here first, here,
          .step within stepped rest⟩

end Path

theorem path_of_runFor {environment : Environment σ} {count : Nat} {first last : State σ}
    (ran : runFor environment count first = .running last) :
    Path environment (fun _ => True) count first last := by
  induction count generalizing first with
  | zero =>
      cases ran
      exact .here _
  | succ count ih =>
      rw [runFor] at ran
      cases stepped : step environment first with
      | running next =>
          rw [stepped] at ran
          exact .step trivial stepped (ih ran)
      | finished state => rw [stepped] at ran; cases ran
      | failed failure state => rw [stepped] at ran; cases ran

/-- Whether an outcome is the end of a run. -/
def Outcome.Ended (outcome : Outcome σ) : Prop :=
  outcome.ending ≠ .unfinished

theorem Outcome.ended_finished (state : State σ) : (Outcome.finished state).Ended :=
  nofun

theorem Outcome.ended_failed (failure : Failure) (state : State σ) :
    (Outcome.failed failure state).Ended :=
  nofun

/-- A run that ended stays as it is, however much longer it may go on. -/
theorem runFor_add_of_ended {environment : Environment σ} {allowance : Nat} {state : State σ}
    (ended : (runFor environment allowance state).Ended) (more : Nat) :
    runFor environment (allowance + more) state = runFor environment allowance state := by
  induction allowance generalizing state with
  | zero => exact absurd rfl ended
  | succ allowance ih =>
      rw [Nat.add_right_comm, runFor, runFor]
      rw [runFor] at ended
      cases stepped : step environment state with
      | running next =>
          rw [stepped] at ended
          exact ih ended
      | finished last => rfl
      | failed failure last => rfl

/-- The code of a template ends with a report and a store, if it is given enough steps. -/
def Ends (environment : Environment σ) (code : Code) (store : σ) (report : Report) (after : σ) :
    Prop :=
  ∃ allowance, (runFor environment allowance (start code store)).Ended ∧
    (runFor environment allowance (start code store)).report = report ∧
    (runFor environment allowance (start code store)).state.store = after

theorem Ends.unique {environment : Environment σ} {code : Code} {store after after' : σ}
    {report report' : Report} (ends : Ends environment code store report after)
    (ends' : Ends environment code store report' after') : report = report' ∧ after = after' := by
  obtain ⟨allowance, ended, rfl, rfl⟩ := ends
  obtain ⟨allowance', ended', rfl, rfl⟩ := ends'
  rw [← runFor_add_of_ended ended allowance', ← runFor_add_of_ended ended' allowance,
    Nat.add_comm allowance']
  exact ⟨rfl, rfl⟩

/-- A run that is over is what its code ends with. -/
theorem Ends.run_eq {environment : Environment σ} {code : Code} {store after : σ} {report : Report}
    (ends : Ends environment code store report after)
    (past : (run environment code store).1.ending ≠ .unfinished) :
    run environment code store = (report, after) := by
  have ran : Ends environment code store (run environment code store).1
      (run environment code store).2 := ⟨patience, past, rfl, rfl⟩
  obtain ⟨sameReport, sameStore⟩ := ran.unique ends
  exact Prod.ext sameReport sameStore

end Stencil.Machine

import Stencil.Proofs.Machine.Effects

/-!
# The stack of slots

The slots of all activations share one list, which grows as slots are written and is cut back where
an activation ends. Whatever code is called, the activations below it wait as they are, and its own
slots are gone when the caller goes on. What is in the slots of the callers is safe as long as no
slot that is written is so large that its place wraps around.
-/

namespace Stencil.Machine

variable {σ : Type}

/-- The next instruction writes a slot that comes to lie below those of its activation. -/
def State.Wraps (state : State σ) : Prop :=
  ∃ op, state.current.ops[state.current.ip]? = some op ∧
    ∃ slot ∈ op.writes, slotAt state.current.base slot < state.current.base

/-- The next instruction has narrow slots only. -/
def State.Narrow (state : State σ) : Prop :=
  ∀ op, state.current.ops[state.current.ip]? = some op → op.Narrow

theorem State.Narrow.not_wraps {state : State σ} (narrow : state.Narrow) : ¬ state.Wraps := by
  rintro ⟨op, found, slot, written, below⟩
  rw [slotAt_of_lt _ (narrow op found slot (Op.mem_slots_of_mem_writes written))] at below
  omega

/-! ## Activations on the stack -/

/-- The slots of some activations, the innermost first, lie on top of one another: they reach from a
floor up to a top. -/
def Stacked (floor : Nat) : Nat → List Activation → Prop
  | top, [] => top = floor
  | top, activation :: callers => activation.base ≤ top ∧ Stacked floor activation.base callers

theorem Stacked.floor_le {floor top : Nat} {activations : List Activation}
    (stacked : Stacked floor top activations) : floor ≤ top := by
  induction activations generalizing top with
  | nil => exact Nat.le_of_eq stacked.symm
  | cons activation callers ih => exact Nat.le_trans (ih stacked.2) stacked.1

/-- What a step does to the stack on which some of the activations stand. -/
theorem Stacked.step {environment : Environment σ} {state next : State σ} {floor : Nat}
    {above below : List Activation}
    (stacked : Stacked floor state.slots.length (state.current :: above))
    (waiting : state.callers = above ++ below) (stepped : step environment state = .running next) :
    (∃ above', next.callers = above' ++ below ∧
      Stacked floor next.slots.length (next.current :: above')) ∨
    ∃ caller rest, above = [] ∧ below = caller :: rest ∧ next.current = caller.advance ∧
      next.callers = rest ∧ next.slots.length = floor := by
  obtain ⟨op, found⟩ := op_of_step stepped
  cases effect_of_step found stepped with
  | stays stays works _ =>
      refine .inl ⟨above, stays.callers.trans waiting, ?_⟩
      rw [Stacked, works.base]
      exact ⟨Nat.le_trans stacked.1 works.longer, stacked.2⟩
  | enters _ enters =>
      refine .inl ⟨state.current :: above, ?_, ?_⟩
      · rw [enters.callers, waiting]
        rfl
      · rw [Stacked, enters.base]
        exact ⟨enters.slots.length_le, stacked⟩
  | leaves _ leaves =>
      obtain ⟨caller, callers, current⟩ := leaves.caller
      have length : next.slots.length = state.current.base := by
        rw [leaves.slots, List.length_take, Nat.min_eq_left stacked.1]
      cases above with
      | nil =>
          refine .inr ⟨caller, next.callers, rfl, ?_, current, rfl, ?_⟩
          · rw [← callers, waiting]
            rfl
          · rw [length]
            exact stacked.2
      | cons first above =>
          rw [waiting, List.cons_append, List.cons.injEq] at callers
          refine .inl ⟨above, callers.2.symm, ?_⟩
          rw [length, current, ← callers.1]
          exact stacked.2

/-- A step changes no slot below the activation that takes it, unless a place wraps around. -/
theorem slots_of_step {environment : Environment σ} {state next : State σ} {floor : Nat}
    (above : floor ≤ state.current.base) (within : state.current.base ≤ state.slots.length)
    (stepped : step environment state = .running next) (sound : ¬ state.Wraps) :
    next.slots.take floor = state.slots.take floor := by
  obtain ⟨op, found⟩ := op_of_step stepped
  cases effect_of_step found stepped with
  | stays _ works _ =>
      have longer := works.longer
      refine List.ext_getElem (by simp only [List.length_take]; omega) fun place here there => ?_
      simp only [List.length_take] at here there
      have spared : ∀ slot ∈ op.writes, slotAt state.current.base slot ≠ place := by
        rintro slot written rfl
        exact sound ⟨op, found, slot, written, by omega⟩
      have kept := works.values place spared
      rw [State.valueAt, State.valueAt, List.getElem?_eq_getElem (by omega),
        List.getElem?_eq_getElem (by omega)] at kept
      rw [List.getElem_take, List.getElem_take]
      exact kept
  | enters _ enters =>
      obtain ⟨arguments, slots⟩ := enters.slots
      rw [← slots, List.take_append_of_le_length (Nat.le_trans above within)]
  | leaves _ leaves => rw [leaves.slots, List.take_take, Nat.min_eq_left above]

/-! ## Calls -/

/-- A state at work for a call: the caller and those who wait for it are as they were, and the slots
of the callees lie above theirs. -/
def Shelters (state inner : State σ) : Prop :=
  ∃ callees, inner.callers = callees ++ state.current :: state.callers ∧
    Stacked state.slots.length inner.slots.length (inner.current :: callees)

section

variable {environment : Environment σ} {kind : State σ → Prop} {count : Nat}
  {state entered inner next last : State σ}

theorem shelters_of_enters (enters : Enters environment state entered) :
    Shelters state entered := by
  refine ⟨[], enters.callers, ?_⟩
  rw [Stacked, enters.base]
  exact ⟨enters.slots.length_le, rfl⟩

/-- While a call is at work, a step leaves those who wait for it alone or brings the caller back. -/
theorem Shelters.step (shelters : Shelters state inner)
    (stepped : step environment inner = .running next) :
    Shelters state next ∨ next.current = state.current.advance ∧ next.callers = state.callers ∧
      next.slots.length = state.slots.length := by
  obtain ⟨callees, callers, stacked⟩ := shelters
  obtain ⟨callees, callers, stacked⟩ | ⟨_, _, _, same, current, callers, length⟩ :=
    stacked.step callers stepped
  · exact .inl ⟨callees, callers, stacked⟩
  · obtain ⟨rfl, rfl⟩ := List.cons.inj same
    exact .inr ⟨current, callers, length⟩

theorem Shelters.deeper (shelters : Shelters state inner) :
    state.callers.length < inner.callers.length := by
  obtain ⟨callees, callers, _⟩ := shelters
  rw [callers, List.length_append, List.length_cons]
  omega

theorem restored_of_shelters (shelters : Shelters state entered)
    (path : Path environment (fun inner => state.callers.length < inner.callers.length) count
      entered last) :
    Shelters state last ∨ last.current = state.current.advance ∧ last.callers = state.callers ∧
      last.slots.length = state.slots.length := by
  induction path with
  | here state => exact .inl shelters
  | step inside stepped rest ih =>
      obtain shelters | back := shelters.step stepped
      · exact ih shelters
      · -- the caller is back, so a path through deeper states ends here
        cases rest with
        | here _ => exact .inr back
        | step deeper _ _ =>
            rw [back.2.1] at deeper
            exact absurd deeper (Nat.lt_irrefl _)

theorem restored_call (enters : Enters environment state entered)
    (path : Path environment (fun inner => state.callers.length < inner.callers.length) count
      entered last) :
    Shelters state last ∨ last.current = state.current.advance ∧ last.callers = state.callers ∧
      last.slots.length = state.slots.length :=
  restored_of_shelters (shelters_of_enters enters) path

/-- As long as no place wraps around, what is in the slots of the callers stays. -/
theorem kept_of_shelters (shelters : Shelters state entered)
    (kept : entered.slots.take state.slots.length = state.slots)
    (path : Path environment (fun inner => state.callers.length < inner.callers.length ∧
      ¬ inner.Wraps) count entered last) :
    last.slots.take state.slots.length = state.slots := by
  induction path with
  | here state => exact kept
  | @step count first next last inside stepped rest ih =>
      obtain ⟨callees, callers, within, stacked⟩ := shelters
      have same := slots_of_step stacked.floor_le within stepped inside.2
      obtain shelters | back := Shelters.step ⟨callees, callers, within, stacked⟩ stepped
      · exact ih shelters (same.trans kept)
      · cases rest with
        | here _ => exact same.trans kept
        | step deeper _ _ =>
            have level := deeper.1
            rw [back.2.1] at level
            exact absurd level (Nat.lt_irrefl _)

theorem kept_call (enters : Enters environment state entered)
    (path : Path environment (fun inner => state.callers.length < inner.callers.length ∧
      ¬ inner.Wraps) count entered last) :
    last.slots.take state.slots.length = state.slots := by
  refine kept_of_shelters (shelters_of_enters enters) ?_ path
  obtain ⟨arguments, slots⟩ := enters.slots
  rw [← slots, List.take_left]

/-- Names that are looked up have the value that they had for activations with the same
bindings. -/
theorem lookup_of_bindings (bindings : last.current.bindings = state.current.bindings)
    (callers : last.callers = state.callers) (vars : Dictionary Value) (name : String) :
    last.lookup vars name = state.lookup vars name := by
  unfold State.lookup
  simp only [List.findSome?_cons, bindings, callers]

end

variable {environment : Environment σ}

end Stencil.Machine

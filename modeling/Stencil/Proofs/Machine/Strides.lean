import Stencil.Proofs.Machine.SlotStack

/-!
# Strides

Between two states of one activation a run goes in strides: a stride is a step that stays in the
activation, or a call with all that it does up to its return. Of the activation it changes what its
instruction may change.
-/

namespace Stencil.Machine

variable {σ : Type}

/-- The states from which the first steps of a run are taken. -/
def trail (environment : Environment σ) : Nat → State σ → List (State σ)
  | 0, _ => []
  | count + 1, state =>
      state :: match step environment state with
        | .running next => trail environment count next
        | _ => []

/-- A state in which an activation with so many callers stands at a place. -/
def State.standsAt (state : State σ) (height place : Nat) : Bool :=
  state.callers.length == height && state.current.ip == place

/-- Two states of one activation. -/
structure Abides (first last : State σ) : Prop where
  code : last.current.code = first.current.code
  ops : last.current.ops = first.current.ops
  bindings : last.current.bindings = first.current.bindings
  callers : last.callers = first.callers

/-- An activation goes from one state to its next one, in so many steps. -/
structure Stride (environment : Environment σ) (op : Op) (steps : Nat) (state next : State σ) :
    Prop where
  found : state.current.ops[state.current.ip]? = some op
  goes : Goes op state.current.ip next.current.ip
  abides : Abides state next
  /-- As long as all slots are narrow, those that the instruction does not write stay. -/
  keeps : (∀ inner ∈ trail environment steps state, inner.Narrow) →
    ∀ slot < 0x8000000000000000, slot ∉ op.writes → next.load slot = state.load slot
  deeper : ∃ others, trail environment steps state = state :: others ∧
    ∀ other ∈ others, state.callers.length < other.callers.length

section

variable {environment : Environment σ} {kind : State σ → Prop} {count more height place : Nat}
  {state next first middle last : State σ} {op : Op}

theorem standsAt_iff : state.standsAt height place = true ↔
    state.callers.length = height ∧ state.current.ip = place := by
  simp only [State.standsAt, Bool.and_eq_true, beq_iff_eq]

theorem standsAt_eq_false (elsewhere : state.callers.length = height → state.current.ip ≠ place) :
    state.standsAt height place = false := by
  refine Bool.eq_false_iff.mpr fun stands => ?_
  obtain ⟨level, here⟩ := standsAt_iff.mp stands
  exact elsewhere level here

/-! ## Trails -/

theorem trail_step (stepped : step environment state = .running next) :
    trail environment (count + 1) state = state :: trail environment count next := by
  rw [trail, stepped]

theorem Path.trail_add (path : Path environment kind count first middle) :
    trail environment (count + more) first =
      trail environment count first ++ trail environment more middle := by
  induction path with
  | here state => rw [Nat.zero_add, trail, List.nil_append]
  | step _ stepped _ ih =>
      rw [Nat.add_right_comm, trail_step stepped, trail_step stepped, ih, List.cons_append]

/-- A path takes its steps from states of its kind. -/
theorem Path.of_mem_trail (path : Path environment kind count first last) :
    ∀ state ∈ trail environment count first, kind state := by
  induction path with
  | here state => nofun
  | step inside stepped _ ih =>
      rw [trail_step stepped]
      exact List.forall_mem_cons.mpr ⟨inside, ih⟩

/-- A path is one of any kind that the states are of from which it takes its steps. -/
theorem Path.of_trail {other : State σ → Prop} (path : Path environment kind count first last)
    (among : ∀ state ∈ trail environment count first, kind state → other state) :
    Path environment other count first last := by
  induction path with
  | here state => exact .here state
  | step inside stepped _ ih =>
      rw [trail_step stepped, List.forall_mem_cons] at among
      exact .step (among.1 inside) stepped (ih among.2)

/-! ## Activations that abide -/

namespace Abides

theorem refl (state : State σ) : Abides state state :=
  ⟨rfl, rfl, rfl, rfl⟩

theorem trans (abides : Abides first middle) (abides' : Abides middle last) : Abides first last :=
  ⟨abides'.code.trans abides.code, abides'.ops.trans abides.ops,
    abides'.bindings.trans abides.bindings, abides'.callers.trans abides.callers⟩

/-- Names that are looked up keep their values. -/
theorem lookup (abides : Abides first last) (vars : Dictionary Value) (name : String) :
    last.lookup vars name = first.lookup vars name :=
  lookup_of_bindings abides.bindings abides.callers vars name

end Abides

/-! ## Strides -/

namespace Stride

variable {steps : Nat}

/-- Among the states of a stride only the first one is a state of the activation. -/
theorem filter_trail (stride : Stride environment op steps state next)
    (level : state.callers.length = height) :
    (trail environment steps state).filter (·.standsAt height place) =
      if state.current.ip = place then [state] else [] := by
  obtain ⟨others, states, deeper⟩ := stride.deeper
  have passed : others.filter (·.standsAt height place) = [] := by
    refine List.filter_eq_nil_iff.mpr fun other among => Bool.eq_false_iff.mp ?_
    exact standsAt_eq_false fun same => absurd (deeper other among) (by omega)
  rw [states, List.filter_cons, passed, State.standsAt, level, beq_self_eq_true, Bool.true_and]
  simp only [beq_iff_eq]

end Stride

/-- A path that comes back to the level at which it begins starts with a stride. -/
theorem Path.stride (path : Path environment kind (count + 1) state last)
    (high : ∀ inner, kind inner → state.callers.length ≤ inner.callers.length)
    (level : last.callers.length = state.callers.length) :
    ∃ op steps rest next, count = steps + rest ∧ Stride environment op (steps + 1) state next ∧
      Path environment kind (steps + 1) state next ∧ Path environment kind rest next last := by
  cases path with
  | step within stepped rest =>
      obtain ⟨op, found⟩ := op_of_step stepped
      cases effect_of_step found stepped with
      | stays stays works _ =>
          have alone : trail environment (0 + 1) state = [state] := by rw [trail_step stepped, trail]
          refine ⟨op, 0, count, _, (Nat.zero_add _).symm,
            ⟨found, works.goes, ?_, ?_, [], alone, nofun⟩, .step within stepped (.here _), rest⟩
          · exact ⟨stays.code, stays.ops, works.bindings, stays.callers⟩
          · intro narrow slot small spared
            rw [alone, List.forall_mem_singleton] at narrow
            exact works.load (narrow op found) small spared
      | enters calls enters =>
          obtain ⟨steps, remaining, back, rfl, call, out, further⟩ :=
            @Path.first_exit _ _ _ (fun inner => state.callers.length < inner.callers.length) _ _ _
              rest (by rw [level]; exact Nat.lt_irrefl _)
          have inner := call.mono fun _ both => both.2
          obtain shelters | ⟨current, callers, slots⟩ := restored_call enters inner
          · exact absurd shelters.deeper out
          · have going : op ≠ .halt := by
              rintro rfl
              cases calls
            refine ⟨op, steps, remaining, back, rfl,
              ⟨found, ?_, ?_, ?_, _, trail_step stepped, inner.of_mem_trail⟩,
              .step within stepped (call.mono fun _ both => both.1), further⟩
            · rw [current]
              exact .onward going
            · refine ⟨?_, ?_, ?_, callers⟩ <;> rw [current] <;> rfl
            · intro narrow slot _ _
              rw [trail_step stepped, List.forall_mem_cons] at narrow
              have kept := kept_call enters (inner.of_trail fun state among below =>
                ⟨below, (narrow.2 state among).not_wraps⟩)
              rw [← slots, List.take_length] at kept
              rw [State.load, kept, current]
              rfl
      | leaves _ leaves =>
          obtain ⟨caller, callers, _⟩ := leaves.caller
          have shallower := congrArg List.length callers
          rw [List.length_cons] at shallower
          cases rest with
          | here _ => omega
          | step within' _ _ =>
              have := high _ within'
              omega

/-- What each stride carries on, a path between two states of an activation does. -/
theorem Path.strides {motive : Nat → State σ → Prop}
    (path : Path environment kind count state last)
    (high : ∀ inner, kind inner → last.callers.length ≤ inner.callers.length)
    (level : state.callers.length = last.callers.length) (here : motive 0 last)
    (stride : ∀ {op steps rest state next}, kind state →
      state.callers.length = last.callers.length → Stride environment op (steps + 1) state next →
      Path environment kind (steps + 1) state next → motive rest next →
      motive (steps + 1 + rest) state) : motive count state := by
  induction count using Nat.strongRecOn generalizing state with
  | ind count ih =>
      cases count with
      | zero =>
          cases path
          exact here
      | succ count =>
          have within : kind state := by
            cases path
            assumption
          obtain ⟨op, steps, rest, next, rfl, first, begun, further⟩ :=
            path.stride (fun inner among => level ▸ high inner among) level.symm
          have same : next.callers.length = last.callers.length := by
            rw [first.abides.callers, level]
          rw [Nat.add_right_comm]
          exact stride within level first begun (ih rest (by omega) further same)

/-- An activation abides along a path between two of its states. -/
theorem Path.abides (path : Path environment kind count state last)
    (high : ∀ inner, kind inner → last.callers.length ≤ inner.callers.length)
    (level : state.callers.length = last.callers.length) : Abides state last :=
  path.strides (motive := fun _ state => Abides state last) high level (.refl last)
    fun _ _ stride _ abides => stride.abides.trans abides

end

end Stencil.Machine

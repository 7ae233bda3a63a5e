/-!
# Results

What is known where a computation that may fail has a value, and what it fails with elsewhere.
-/

namespace Stencil

variable {ε ε' α β : Type}

/-- The parts of a computation in two steps that succeeds. -/
theorem bind_eq_ok {first : Except ε α} {next : α → Except ε β} {result : β} :
    (do next (← first)) = .ok result ↔ ∃ value, first = .ok value ∧ next value = .ok result := by
  cases first with
  | error problem => exact ⟨nofun, fun ⟨_, failed, _⟩ => nomatch failed⟩
  | ok value =>
      constructor
      · intro further
        exact ⟨value, rfl, further⟩
      · rintro ⟨_, ⟨⟩, further⟩
        exact further

theorem map_eq_ok {result : Except ε α} {change : α → β} {value : β} :
    result.map change = .ok value ↔ ∃ start, result = .ok start ∧ change start = value := by
  cases result with
  | error problem => exact ⟨nofun, fun ⟨_, failed, _⟩ => nomatch failed⟩
  | ok start =>
      constructor
      · intro changed
        exact ⟨start, rfl, Except.ok.inj changed⟩
      · rintro ⟨_, ⟨⟩, rfl⟩
        rfl

theorem mapError_error (problem : ε) (change : ε → ε') :
    (.error problem : Except ε α).mapError change = .error (change problem) :=
  rfl

theorem mapError_ok (value : α) (change : ε → ε') :
    (.ok value : Except ε α).mapError change = .ok value :=
  rfl

/-- Other words for an error are no other value. -/
theorem mapError_eq_ok {result : Except ε α} {change : ε → ε'} {value : α} :
    result.mapError change = .ok value ↔ result = .ok value := by
  cases result with
  | error problem =>
      rw [mapError_error]
      exact ⟨nofun, nofun⟩
  | ok other => rw [mapError_ok, Except.ok.injEq, Except.ok.injEq]

/-- What a computation fails with, if it does. -/
def problem? : Except ε α → Option ε
  | .ok _ => none
  | .error problem => some problem

/-- Of two computations the first that fails counts. -/
theorem problem?_bind {first : Except ε α} {next : α → Except ε β} {one other : Option ε}
    (here : problem? first = one) (there : ∀ value, problem? (next value) = other) :
    problem? (do next (← first)) = one.or other := by
  cases first with
  | error problem =>
      cases here
      rfl
  | ok value =>
      cases here
      exact there value

/-- Nothing can fail behind the only computation that can. -/
theorem problem?_map {first : Except ε α} {change : α → β} {one : Option ε}
    (here : problem? first = one) : problem? (do return change (← first)) = one := by
  cases first with
  | error problem => exact here
  | ok value => exact here

theorem problem?_eq_none {result : Except ε α} :
    problem? result = none ↔ ∃ value, result = .ok value := by
  cases result with
  | error problem => exact ⟨nofun, fun ⟨_, failed⟩ => nomatch failed⟩
  | ok value => exact ⟨fun _ => ⟨value, rfl⟩, fun _ => rfl⟩

theorem problem?_eq_some {result : Except ε α} {problem : ε} :
    problem? result = some problem ↔ result = .error problem := by
  cases result with
  | error other => rw [problem?, Option.some.injEq, Except.error.injEq]
  | ok value => exact ⟨nofun, nofun⟩

end Stencil

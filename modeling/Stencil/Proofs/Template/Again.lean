import Stencil.Proofs.Template.Similar

/-!
# Parsing again

An expression that was parsed once is parsed in the same way each time, whatever stands behind its
tag.
-/

namespace Stencil.Template

variable {settings : Settings} {situation : Situation} {tokens run run' rest rest' : List Token}
  {token : Token} {value : Node} {start stop : State} {allowance other : Nat}

/-- The same rest of a tag twice, with other variables and with other tokens behind the tag. -/
def across (settings : Settings) (before before' : Situation) (rest rest' : List Token) :
    Comparison where
  settings := settings
  before := before
  before' := before'
  rest := rest
  rest' := rest'
  same := Eq
  kind same := congrArg Token.kind same.symm
  value same := congrArg Token.value same.symm

abbrev again (settings : Settings) (situation : Situation) (rest rest' : List Token) : Comparison :=
  across settings situation situation rest rest'

theorem likeness_again : Likeness (again settings situation rest rest') Eq where
  literal same denoted := ⟨_, same ▸ denoted, rfl⟩
  string := by rintro _ _ ⟨⟩; rfl
  bool := by rintro _ _ _ ⟨⟩; rfl
  nil := by rintro _ _ ⟨⟩; rfl
  name := by rintro _ _ ⟨⟩; rfl
  call := by
    rintro _ _ _ _ ⟨⟩ alike
    obtain rfl := List.forall₂_eq_eq_eq ▸ alike
    rfl
  field := by rintro _ _ _ _ _ ⟨⟩ ⟨⟩; rfl
  index := by rintro _ _ _ _ _ _ ⟨⟩ ⟨⟩ ⟨⟩; rfl
  methodCall := by
    rintro _ _ _ _ _ _ _ ⟨⟩ ⟨⟩ alike
    obtain rfl := List.forall₂_eq_eq_eq ▸ alike
    rfl
  filter := by rintro _ _ _ _ _ ⟨⟩ ⟨⟩; rfl
  unary := by rintro _ _ _ _ _ ⟨⟩ ⟨⟩; rfl
  binary := by rintro _ _ _ _ _ _ _ ⟨⟩ ⟨⟩ ⟨⟩; rfl
  list := by
    rintro _ _ _ _ ⟨⟩ alike
    obtain rfl := List.forall₂_eq_eq_eq ▸ alike
    rfl
  range := by rintro _ _ _ _ _ _ ⟨⟩ ⟨⟩ ⟨⟩; rfl

theorem eq_of_runs_across {before before' : Situation}
    (runs : (across settings before before' rest rest').Runs run run') : run' = run := by
  induction runs with
  | closing same ends => rw [show _ = _ from same]
  | cons same inside runs ih => rw [show _ = _ from same, ih]

/-- A tag of the same tokens is the same rest of a tag. -/
theorem Comparison.Runs.of_forall₂ {comparison : Comparison} {inner inner' : List Token}
    {closing closing' : Token} (alike : List.Forall₂ comparison.same inner inner')
    (inside : ∀ token ∈ inner, token.kind ≠ .tagEnd) (same : comparison.same closing closing')
    (ends : closing.kind = .tagEnd) :
    comparison.Runs (inner ++ [closing]) (inner' ++ [closing']) := by
  induction alike with
  | nil => exact .closing same ends
  | cons first _ ih =>
      obtain ⟨here, others⟩ := List.forall_mem_cons.mp inside
      exact .cons first here (ih others)

theorem Comparison.Runs.again {comparison : Comparison} (runs : comparison.Runs run run') :
    (again settings situation rest rest').Runs run run := by
  induction runs with
  | closing same ends => exact .closing rfl ends
  | cons same inside runs ih => exact .cons rfl inside ih

theorem Comparison.Runs.again_right {comparison : Comparison} (runs : comparison.Runs run run') :
    (Template.again settings situation rest rest').Runs run' run' := by
  induction runs with
  | closing same ends => exact .closing rfl ((comparison.kind same).trans ends)
  | cons same inside runs ih => exact .cons rfl (by rwa [comparison.kind same]) ih

/-- What was parsed once is taken from then on. -/
theorem Alike.takes {α : Type} {least : Nat} {parse parse' : Parse α} {value : α}
    (alike : Alike (again settings situation rest rest') least run run parse parse' Eq)
    (stands : start.Stands situation (run ++ rest))
    (ran : parse settings start = .ok (value, stop)) :
    ∃ left, stop.Stands situation (left ++ rest) ∧ left.length + least ≤ run.length ∧
      (again settings situation rest rest').Runs left left ∧
        Takes settings situation (run ++ rest') parse' value situation (left ++ rest') := by
  obtain ⟨_, _, left, left', -, -, runs, fewer, here, -⟩ :=
    alike start (situation.start (run ++ rest')) value stop stands (situation.stands_start _) ran
  refine ⟨left, here, fewer, runs.again, fun start' stands' => ?_⟩
  obtain ⟨value', stop', left₂, left₂', ran', rfl, runs', -, here', there⟩ :=
    alike start start' value stop stands stands' ran
  obtain rfl : left₂ = left := List.append_cancel_right (here'.ahead.symm.trans here.ahead)
  rw [eq_of_runs_across runs'] at there
  exact ⟨stop', ran', there⟩

end Stencil.Template

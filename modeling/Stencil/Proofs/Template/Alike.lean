import Stencil.Proofs.Template.Ahead
import Stencil.Proofs.Template.Steady

/-!
# Parsing in two places

The rest of a tag may be parsed in two places: with other tokens behind the tag, with other variables
and macros, at another offset, or with another allowance. What is parsed in the one place is parsed
in the other, up to what the places have to do with it.
-/

namespace Stencil.Template

open Token (Kind)

/-- Two places for the rest of a tag, and when a token of the one counts as one of the other. -/
structure Comparison where
  settings : Settings
  before : Situation
  before' : Situation
  rest : List Token
  rest' : List Token
  same : Token → Token → Prop
  kind : ∀ {token token'}, same token token' → token'.kind = token.kind
  value : ∀ {token token'}, same token token' → token'.value = token.value

/-- The same tokens up to the closing of a tag. -/
inductive Comparison.Runs (comparison : Comparison) : List Token → List Token → Prop
  | closing {token token' : Token} (same : comparison.same token token')
      (ends : token.kind = .tagEnd) : Runs comparison [token] [token']
  | cons {token token' : Token} {run run' : List Token} (same : comparison.same token token')
      (inside : token.kind ≠ .tagEnd) (runs : Runs comparison run run') :
      Runs comparison (token :: run) (token' :: run')

theorem Comparison.Runs.exists_cons {comparison : Comparison} {run run' : List Token}
    (runs : comparison.Runs run run') :
    ∃ token token' left left', comparison.same token token' ∧ run = token :: left ∧
      run' = token' :: left' ∧ (token.kind ≠ .tagEnd → comparison.Runs left left') := by
  cases runs with
  | closing same ends => exact ⟨_, _, [], [], same, rfl, rfl, fun inside => absurd ends inside⟩
  | cons same inside runs => exact ⟨_, _, _, _, same, rfl, rfl, fun _ => runs⟩

variable {α β α' β' : Type}

/-- What the one parse makes of a run in the one place, the other makes of the other run in the other
place. At least so many tokens are taken, but never the last of the run. -/
def Alike (comparison : Comparison) (least : Nat) (run run' : List Token) (parse : Parse α)
    (parse' : Parse α') (like : α → α' → Prop) : Prop :=
  ∀ start start' value stop, start.Stands comparison.before (run ++ comparison.rest) →
    start'.Stands comparison.before' (run' ++ comparison.rest') →
    parse comparison.settings start = .ok (value, stop) →
      ∃ value' stop' left left', parse' comparison.settings start' = .ok (value', stop') ∧
        like value value' ∧ comparison.Runs left left' ∧ left.length + least ≤ run.length ∧
        stop.Stands comparison.before (left ++ comparison.rest) ∧
        stop'.Stands comparison.before' (left' ++ comparison.rest')

namespace Alike

variable {comparison : Comparison} {least more : Nat} {token token' : Token}
  {run run' left left' : List Token} {parse : Parse α} {parse' : Parse α'} {next : α → Parse β}
  {next' : α' → Parse β'} {like : α → α' → Prop} {fine : β → β' → Prop}

theorem pure {value : α} {value' : α'} (runs : comparison.Runs run run') (holds : like value value') :
    Alike comparison 0 run run' (Pure.pure value) (Pure.pure value') like := by
  rintro start start' _ _ stands stands' ⟨⟩
  exact ⟨value', start', run, run', rfl, holds, runs, Nat.le_refl _, stands, stands'⟩

theorem of_fails
    (fails : ∀ start, ∃ problem, parse comparison.settings start = .error problem) :
    Alike comparison least run run' parse parse' like := by
  intro start start' value stop _ _ ran
  obtain ⟨problem, failed⟩ := fails start
  rw [failed] at ran
  cases ran

theorem weaken (alike : Alike comparison more run run' parse parse' like) (fewer : least ≤ more) :
    Alike comparison least run run' parse parse' like := by
  intro start start' value stop stands stands' ran
  obtain ⟨value', stop', left, left', ran', holds, runs, taken, standing⟩ :=
    alike start start' value stop stands stands' ran
  exact ⟨value', stop', left, left', ran', holds, runs, Nat.le_trans (Nat.add_le_add_left fewer _) taken,
    standing⟩

theorem bind (begun : Alike comparison least run run' parse parse' like)
    (continued : ∀ value value' left left', like value value' → comparison.Runs left left' →
      left.length + least ≤ run.length →
      Alike comparison 0 left left' (next value) (next' value') fine) :
    Alike comparison least run run' (parse >>= next) (parse' >>= next') fine := by
  intro start start' value stop stands stands' ran
  obtain ⟨found, between, here, further⟩ := run_bind.mp ran
  obtain ⟨found', between', left, left', ran', holds, runs, taken, standing, standing'⟩ :=
    begun start start' found between stands stands' here
  obtain ⟨value', stop', last, last', went', result⟩ :=
    continued found found' left left' holds runs taken between between' value stop standing standing'
      further
  obtain ⟨holds', runs', taken', standings⟩ := result
  exact ⟨value', stop', last, last', (bind_eq_of_ok ran').trans went', holds', runs', by omega,
    standings⟩

/-- What the first parse takes in the one place it takes in the other. -/
theorem takes_bind {value : α} {value' : α'}
    (sound : Takes comparison.settings comparison.before (run ++ comparison.rest) parse value
      comparison.before (left ++ comparison.rest))
    (sound' : Takes comparison.settings comparison.before' (run' ++ comparison.rest') parse' value'
      comparison.before' (left' ++ comparison.rest'))
    (fewer : left.length + more ≤ run.length + least)
    (continued : Alike comparison least left left' (next value) (next' value') fine) :
    Alike comparison more run run' (parse >>= next) (parse' >>= next') fine := by
  intro start start' result stop stands stands' ran
  obtain ⟨between, here, standing⟩ := sound start stands
  obtain ⟨between', here', standing'⟩ := sound' start' stands'
  rw [bind_eq_of_ok here] at ran
  rw [bind_eq_of_ok here']
  obtain ⟨result', stop', last, last', ran', holds, runs, taken, standings⟩ :=
    continued between between' result stop standing standing' ran
  exact ⟨result', stop', last, last', ran', holds, runs, by omega, standings⟩

theorem of_error {start : State} {problem : ParseError} {value : β} {stop : State}
    (failed : parse comparison.settings start = .error problem) :
    (parse >>= next) comparison.settings start ≠ .ok (value, stop) := by
  rw [bind_eq_of_error failed]
  exact nofun

theorem nextToken {next : Token → Parse β} {next' : Token → Parse β'}
    (same : comparison.same token token')
    (continued : Alike comparison 0 run run' (next token) (next' token') fine) :
    Alike comparison 1 (token :: run) (token' :: run') (Template.nextToken >>= next)
      (Template.nextToken >>= next') fine := by
  by_cases failed : token.kind = .error
  · intro start start' value stop stands stands' ran
    exact absurd ran (of_error (nextToken_of_error failed stands))
  · have sound' : token'.kind ≠ .error := by rwa [comparison.kind same]
    exact takes_bind (.nextToken failed) (.nextToken sound') (by simp) continued

theorem peekKind {next : Kind → Parse β} {next' : Kind → Parse β'}
    (same : comparison.same token token')
    (continued : Alike comparison least (token :: run) (token' :: run') (next token.kind)
      (next' token.kind) fine) :
    Alike comparison least (token :: run) (token' :: run') (Template.peekKind >>= next)
      (Template.peekKind >>= next') fine := by
  by_cases failed : token.kind = .error
  · intro start start' value stop stands stands' ran
    exact absurd ran (of_error (bind_eq_of_error (peekToken_of_error failed stands)))
  · have sound' : token'.kind ≠ .error := by rwa [comparison.kind same]
    have peeked : Takes comparison.settings comparison.before' (token' :: run' ++ comparison.rest')
        Template.peekKind token.kind comparison.before' (token' :: run' ++ comparison.rest') := by
      rw [← comparison.kind same]
      exact .peekKind sound'
    exact takes_bind (.peekKind failed) peeked (Nat.le_refl _) continued

/-- A token of a certain kind is taken, or left where it is. -/
theorem accept {kind : Kind} {next : Bool → Parse β} {next' : Bool → Parse β'}
    (runs : comparison.Runs run run') (inner : kind ≠ .tagEnd)
    (taken : ∀ left left', comparison.Runs left left' → left.length + 1 = run.length →
      Alike comparison least left left' (next true) (next' true) fine)
    (declined : Alike comparison least run run' (next false) (next' false) fine) :
    Alike comparison least run run' (Template.accept kind >>= next)
      (Template.accept kind >>= next') fine := by
  obtain ⟨token, token', left, left', same, rfl, rfl, further⟩ := runs.exists_cons
  by_cases failed : token.kind = .error
  · intro start start' value stop stands stands' ran
    exact absurd ran (of_error (bind_eq_of_error (bind_eq_of_error
      (peekToken_of_error failed stands))))
  · have sound' : token'.kind ≠ .error := by rwa [comparison.kind same]
    by_cases found : token.kind = kind
    · have runs' := further (found ▸ inner)
      have found' : token'.kind = kind := (comparison.kind same).trans found
      exact takes_bind (.accept failed found) (.accept sound' found') (by simp)
        (taken left left' runs' rfl)
    · have other' : token'.kind ≠ kind := by rwa [comparison.kind same]
      exact takes_bind (.decline failed found) (.decline sound' other') (Nat.le_refl _) declined

/-- A token of a certain kind is asked for. -/
theorem expect {kind : Kind} {what : String} {next : Token → Parse β} {next' : Token → Parse β'}
    (runs : comparison.Runs run run') (inner : kind ≠ .tagEnd)
    (continued : ∀ token token' left left', comparison.same token token' → token.kind = kind →
      comparison.Runs left left' → left.length + 1 = run.length →
      Alike comparison 0 left left' (next token) (next' token') fine) :
    Alike comparison 1 run run' (Template.expect kind what >>= next)
      (Template.expect kind what >>= next') fine := by
  obtain ⟨token, token', left, left', same, rfl, rfl, further⟩ := runs.exists_cons
  by_cases failed : token.kind = .error
  · intro start start' value stop stands stands' ran
    exact absurd ran (of_error (bind_eq_of_error (nextToken_of_error failed stands)))
  · by_cases found : token.kind = kind
    · have sound : kind ≠ .error := found ▸ failed
      have found' : token'.kind = kind := (comparison.kind same).trans found
      exact takes_bind (.expect sound found) (.expect sound found') (by simp)
        (continued token token' left left' same found (further (found ▸ inner)) rfl)
    · intro start start' value stop stands stands' ran
      obtain ⟨_, _, here, -⟩ := run_bind.mp ran
      obtain ⟨_, _, read, wrong⟩ := run_bind.mp here
      obtain ⟨between, read', -⟩ := Takes.nextToken failed start stands
      rw [read'] at read
      cases read
      rw [if_neg found] at wrong
      exact nomatch wrong

theorem expectName {what : String} {next : String → Parse β} {next' : String → Parse β'}
    (runs : comparison.Runs run run')
    (continued : ∀ token token' left left', comparison.same token token' →
      comparison.Runs left left' → left.length + 1 = run.length →
      Alike comparison 0 left left' (next token.value) (next' token'.value) fine) :
    Alike comparison 1 run run' (Template.expectName what >>= next)
      (Template.expectName what >>= next') fine := by
  simp only [Template.expectName, bind_assoc, pure_bind]
  exact expect runs nofun fun token token' left left' same _ => continued token token' left left' same

theorem fault {problem : GrammarFault} :
    Alike comparison least run run' (Template.fault token problem : Parse α) parse' like :=
  of_fails fun _ => ⟨_, rfl⟩

theorem unexpected {what : String} :
    Alike comparison least run run' (Template.unexpected token what : Parse α) parse' like :=
  fault

theorem tooDeep : Alike comparison least run run' (Template.tooDeep : Parse α) parse' like := by
  refine of_fails fun start => ?_
  show ∃ problem, (Template.peekToken >>= _) comparison.settings start = .error problem
  cases peeked : Template.peekToken comparison.settings start with
  | error problem => exact ⟨problem, bind_eq_of_error peeked⟩
  | ok found => exact ⟨_, bind_eq_of_ok peeked⟩

theorem get {next : State → Parse β} {next' : State → Parse β'}
    (continued : ∀ state state', state.frame = comparison.before.frame →
      state.macros = comparison.before.macros → state'.frame = comparison.before'.frame →
      state'.macros = comparison.before'.macros →
      Alike comparison least run run' (next state) (next' state') fine) :
    Alike comparison least run run' (MonadState.get >>= next) (MonadState.get >>= next') fine :=
  fun start start' value stop stands stands' =>
    continued start start' stands.frame stands.macros stands'.frame stands'.macros start start' value
      stop stands stands'

end Alike

end Stencil.Template

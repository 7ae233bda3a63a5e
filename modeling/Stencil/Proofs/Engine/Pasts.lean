import Stencil.Engine
import Stencil.Proofs.Machine.Bare
import Stencil.Proofs.Store.Loading

/-!
# Renders do not depend on the past

What an engine did before shows in its cache, in its pool of buffers and in the readings of its
clock. None of that shows in a render, as long as the sources stay as they are.
-/

namespace Stencil

/-! ## Stores whose sources stay -/

/-- The cache of a store takes all code, and has only code that the sources are compiled to. -/
structure Policy.Settled (policy : Policy) (sources : Sources) (store : Store) : Prop where
  same : store.sources = sources
  takes : policy.Takes store
  compiled : ∀ name code, store.found? name = some code →
    policy.fresh sources name = .ok code.undated

namespace Policy.Settled

variable {policy : Policy} {sources : Sources} {store : Store}

theorem create {cache : Cache} (vacant : policy.Vacant cache) :
    policy.Settled sources (.create sources cache) where
  same := rfl
  takes := vacant.takes sources
  compiled := fun _ _ found => nomatch (vacant.found? sources).symm.trans found

theorem compile (settled : policy.Settled sources store) (name source : String) :
    policy.Settled sources (policy.compile name source store).2 :=
  ⟨settled.same, settled.takes, settled.compiled⟩

theorem delete (settled : policy.Settled sources store) (name : String) :
    policy.Settled sources (store.delete name) where
  same := settled.same
  takes := settled.takes.succeeds (store.succeeds_delete name)
  compiled := fun other code found => settled.compiled other code (Store.of_found?_delete found)

theorem load (settled : policy.Settled sources store) (name : String) :
    (policy.load name store).1.map Code.undated = policy.fresh sources name ∧
      policy.Settled sources (policy.load name store).2 := by
  obtain ⟨succeeds, loads⟩ := policy.loads_load name store
  rw [← settled.same]
  constructor
  · refine loads.map_undated settled.takes fun code found _ => ?_
    rw [settled.same]
    exact settled.compiled name code found
  · refine ⟨succeeds.sources, settled.takes.succeeds succeeds, fun other code found => ?_⟩
    rcases loads.found?_cases found with before | ⟨rfl, _, compiled⟩
    · rw [settled.same]
      exact settled.compiled other code before
    · exact compiled

end Policy.Settled

/-! ## Engines -/

namespace Engine

/-- What an engine is asked for. -/
inductive Call where
  | render (name source : String) (vars : Dictionary Value)
  | renderTemplate (name : String) (vars : Dictionary Value)
  | invalidate (name : String)

/-- What a call shows, if it renders anything, and what it leaves. -/
def respond (engine : Engine) (space : Workspace) :
    Call → Option (Except Failure Machine.Report) × Workspace
  | .render name source vars =>
      let (result, after) := engine.render name source vars space
      (some result, after)
  | .renderTemplate name vars =>
      let (result, after) := engine.renderTemplate name vars space
      (some result, after)
  | .invalidate name => (none, engine.invalidate name space)

/-- What is left after calls, one after the other. -/
def after (engine : Engine) (space : Workspace) (calls : List Call) : Workspace :=
  calls.foldl (fun space call => (engine.respond space call).2) space

/-- The engine with another clock, that uses no code again. -/
def anew (engine : Engine) (clock : Nat → Time) : Engine :=
  { engine with policy := { engine.policy with strategy := .never, clock } }

variable {engine : Engine} {sources : Sources} {space : Workspace}

/-- What code shows when all templates are found among the sources. -/
def shows (engine : Engine) (sources : Sources) (vars : Dictionary Value) (code : Code) :
    Machine.Report :=
  let environment : Machine.Environment Store :=
    ⟨engine.library, engine.limits, some engine.policy.load, vars⟩
  (Machine.run (environment.bare (engine.policy.fresh sources)) code ()).1

/-- What a call shows, whatever the past. -/
def shown (engine : Engine) (sources : Sources) : Call → Option (Except Failure Machine.Report)
  | .render name source vars =>
      some ((compileSource engine.policy.dialect engine.policy.optimize ⟨0⟩ name source).map
        (engine.shows sources vars))
  | .renderTemplate name vars =>
      some ((engine.policy.fresh sources name).map (engine.shows sources vars))
  | .invalidate _ => none

theorem execute_settled {store : Store} (settled : engine.policy.Settled sources store)
    (code : Code) (vars : Dictionary Value) :
    (engine.execute code vars store).1 = engine.shows sources vars code.undated ∧
      engine.policy.Settled sources (engine.execute code vars store).2 := by
  have finds : Machine.Finds engine.policy.load (engine.policy.fresh sources)
      (engine.policy.Settled sources) :=
    ⟨fun name _ held => (held.load name).1, fun name _ held => (held.load name).2⟩
  exact Machine.report_run rfl finds code settled

/-- The buffer that a render writes to is empty. -/
theorem renderCode_settled (space : Workspace)
    (settled : engine.policy.Settled sources space.store) (code : Code)
    (vars : Dictionary Value) :
    (engine.renderCode code vars space).1 = engine.shows sources vars code.undated ∧
      engine.policy.Settled sources (engine.renderCode code vars space).2.store := by
  obtain ⟨report, kept⟩ := execute_settled settled code vars
  refine ⟨?_, kept⟩
  rw [← report]
  show { (engine.execute code vars space.store).1 with
    output := space.pool.take.1 ++ (engine.execute code vars space.store).1.output } = _
  rw [space.pool.take_eq_empty, String.empty_append]

theorem renderFound_settled {found : Except Failure Code × Store} {made : Except Failure Code}
    (same : found.1.map Code.undated = made) (settled : engine.policy.Settled sources found.2)
    (vars : Dictionary Value) (pool : Pool) :
    (engine.renderFound found vars pool).1 = made.map (engine.shows sources vars) ∧
      engine.policy.Settled sources (engine.renderFound found vars pool).2.store := by
  obtain ⟨result, store⟩ := found
  subst same
  cases result with
  | error failure => exact ⟨rfl, settled⟩
  | ok code =>
      obtain ⟨report, kept⟩ := renderCode_settled ⟨store, pool⟩ settled code vars
      exact ⟨congrArg Except.ok report, kept⟩

theorem respond_settled (settled : engine.policy.Settled sources space.store) (call : Call) :
    (engine.respond space call).1 = engine.shown sources call ∧
      engine.policy.Settled sources (engine.respond space call).2.store := by
  cases call with
  | render name source vars =>
      obtain ⟨result, kept⟩ := renderFound_settled
        (compileSource_undated engine.policy.dialect engine.policy.optimize
          (engine.policy.clock space.store.readings) name source)
        (settled.compile name source) vars space.pool
      exact ⟨congrArg some result, kept⟩
  | renderTemplate name vars =>
      obtain ⟨same, kept⟩ := settled.load name
      obtain ⟨result, kept⟩ := renderFound_settled same kept vars space.pool
      exact ⟨congrArg some result, kept⟩
  | invalidate name => exact ⟨rfl, settled.delete name⟩

theorem after_settled (space : Workspace) (settled : engine.policy.Settled sources space.store)
    (calls : List Call) :
    engine.policy.Settled sources (engine.after space calls).store := by
  induction calls generalizing space with
  | nil => exact settled
  | cons call rest ih => exact ih _ (respond_settled settled call).2

/-- After any calls, a render shows what it would show if it was the first one, and no code was
ever used again. -/
theorem respond_as_first {cache : Cache} (vacant : engine.policy.Vacant cache)
    (clock : Nat → Time) (past : List Call) (call : Call) :
    (engine.respond (engine.after (.ofStore (.create sources cache)) past) call).1 =
      ((engine.anew clock).respond (.ofStore (.create sources (.memory []))) call).1 := by
  have settled := after_settled (.ofStore (.create sources cache)) (.create vacant) past
  have first : (engine.anew clock).policy.Settled sources
      (Workspace.ofStore (.create sources (.memory []))).store := .create (.inl rfl)
  rw [(respond_settled settled call).1, (respond_settled first call).1]
  cases call <;> rfl

/-- An engine that uses code without looking at the source. -/
def hasty : Engine :=
  { standard with policy := ⟨.noVerify, .standard, true, fun reading => ⟨reading⟩⟩ }

def pages : Sources :=
  .memory [("page", ⟨"[% INCLUDE 'part' %]!", ⟨0⟩⟩), ("part", ⟨"one", ⟨0⟩⟩)]

/-- A render that fails half way, one that leaves code in the cache, and one of nothing. -/
def visits : List Call :=
  [.render "broken" "text[% 1 / 0 %]" [], .renderTemplate "page" [], .renderTemplate "none" [],
    .invalidate "part"]

theorem page_respond_as_first :
    hasty.policy.Vacant (.files []) ∧
      (hasty.respond (hasty.after (.ofStore (.create pages (.files []))) visits)
        (.renderTemplate "page" [])).1 = some (.ok ⟨.finished, "one!", []⟩) := by
  have vacant : hasty.policy.Vacant (.files []) := .inr ⟨rfl, Int.natCast_nonneg⟩
  refine ⟨vacant, ?_⟩
  rw [respond_as_first vacant fun _ => ⟨0⟩]
  decide +kernel

end Engine

end Stencil

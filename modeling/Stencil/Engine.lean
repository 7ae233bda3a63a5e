import Stencil.Machine.Run
import Stencil.Pool
import Stencil.Store.Load

/-!
# Engines

An engine renders templates: texts that it is given, or templates of its store. Templates that are
included come from the store too.
-/

namespace Stencil

structure Engine where
  policy : Policy
  library : Library
  limits : Machine.Limits

namespace Engine

/-- The engine with the standard dialect, library and limits, and a clock that stands still. -/
def standard : Engine where
  policy := ⟨.verify, .standard, true, fun _ => ⟨0⟩⟩
  library := .builtins
  limits := .standard

/-- What renders share and change. -/
structure Workspace where
  store : Store
  pool : Pool

def Workspace.ofStore (store : Store) : Workspace :=
  ⟨store, .standard⟩

/-- Runs the code of a template. -/
def execute (engine : Engine) (code : Code) (vars : Dictionary Value) (store : Store) :
    Machine.Report × Store :=
  Machine.run ⟨engine.library, engine.limits, some engine.policy.load, vars⟩ code store

/-- Runs code with a buffer of the pool for its output. -/
def renderCode (engine : Engine) (code : Code) (vars : Dictionary Value)
    (space : Workspace) : Machine.Report × Workspace :=
  let (buffer, pool) := space.pool.take
  let (report, store) := engine.execute code vars space.store
  let text := buffer ++ report.output
  ({ report with output := text }, ⟨store, pool.giveBack text⟩)

/-- Goes on with code, if there is some. -/
def renderFound (engine : Engine) (found : Except Failure Code × Store)
    (vars : Dictionary Value) (pool : Pool) : Except Failure Machine.Report × Workspace :=
  match found with
  | (.error failure, store) => (.error failure, ⟨store, pool⟩)
  | (.ok code, store) =>
      let (report, space) := engine.renderCode code vars ⟨store, pool⟩
      (.ok report, space)

/-- Renders a text under a name. -/
def render (engine : Engine) (name source : String) (vars : Dictionary Value)
    (space : Workspace) : Except Failure Machine.Report × Workspace :=
  engine.renderFound (engine.policy.compile name source space.store) vars space.pool

/-- Renders a template of the store. -/
def renderTemplate (engine : Engine) (name : String) (vars : Dictionary Value)
    (space : Workspace) : Except Failure Machine.Report × Workspace :=
  engine.renderFound (engine.policy.load name space.store) vars space.pool

/-- Drops the code of a template from the cache. -/
def invalidate (_engine : Engine) (name : String) (space : Workspace) : Workspace :=
  { space with store := space.store.delete name }

end Engine

end Stencil

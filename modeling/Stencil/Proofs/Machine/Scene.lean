import Stencil.Proofs.Machine.Broken
import Stencil.Proofs.Machine.Slots
import Stencil.Proofs.Meaning.Basic

/-!
# Scenes

A scene is what stays the same while an activation runs: its code, its callers, and how deep it is.
A pose is where the activation stands and what its registers and stacks hold. Scene, pose and the
world of a rendering make up a state of the machine, so that a run of the machine can be followed
along an action of the rendering.
-/

namespace Stencil.Machine

open Meaning (Action Context Definition Surroundings World)

/-- Where text goes: to the output, or into a capture around which there are others. -/
inductive Sink where
  | output
  | capture (outer : List String) (shown : String)

namespace Sink

def captures : Sink → String → List String
  | output, _ => []
  | capture outer _, written => written :: outer

/-- The output, when so much is written to the sink. -/
def shown : Sink → String → String
  | output, written => written
  | capture _ shown, _ => shown

end Sink

structure Pose where
  sink : Sink
  operands : List Value
  marks : List Nat
  ip : Nat
  accumulator : Value
  second : Value

structure Scene (σ τ : Type) where
  surroundings : Surroundings σ
  loader : Option (Loader τ)
  /-- Which stores of a rendering and of the machine belong together. -/
  related : σ → τ → Prop
  /-- How often the loops of the rendering may go round. -/
  rounds : Nat
  definitions : String → Option Definition
  /-- The activation, whose place and base do not matter. -/
  activation : Activation
  callers : List Activation
  /-- The slots of the activations that wait. -/
  below : List Value
  depth : Nat

variable {σ τ α β : Type}

namespace Scene

variable (scene : Scene σ τ)

def environment : Environment τ where
  library := scene.surroundings.library
  limits := scene.surroundings.limits
  loader := scene.loader
  «variables» := scene.surroundings.vars

/-- Where the nodes of the scene are rendered. -/
def context : Context where
  template := scene.activation.code.name
  definitions := scene.definitions
  bindings := (scene.activation :: scene.callers).filterMap (·.bindings)
  trace := (scene.activation :: scene.callers).map (·.origin.label)

/-- The state of the machine in a pose of the scene. -/
def state (pose : Pose) (world : World σ) (store : τ) : State τ where
  accumulator := pose.accumulator
  second := pose.second
  operands := pose.operands
  marks := pose.marks
  slots := scene.below ++ world.slots
  current := { scene.activation with ip := pose.ip, base := scene.below.length }
  callers := scene.callers
  captures := pose.sink.captures world.written
  depth := scene.depth
  made := world.made
  output := pose.sink.shown world.written
  warnings := world.warnings
  store := store

/-- An instruction of the scene, at a place where states are of a kind. -/
structure At (kind : State τ → Prop) (ip : Nat) (op : Op) : Prop where
  found : scene.activation.ops[ip]? = some op
  narrow : op.Narrow
  inside : ∀ pose world store, pose.ip = ip → kind (scene.state pose world store)

/-- Instructions of the scene from one place to another, with something behind them. -/
def Laid (kind : State τ → Prop) : Nat → List Op → Nat → Prop
  | ip, [], stop => ip = stop ∧ ip < scene.activation.ops.size
  | ip, op :: rest, stop => scene.At kind ip op ∧ Laid kind (ip + 1) rest stop

/-- The run of the machine from a state keeps to states of a kind and agrees with the result of an
action. Where that has a value, the machine arrives somewhere; where it fails, the machine fails
alike; and where a loop goes round too often, the machine goes on for a number of steps. -/
def Follows (bound : Nat) (kind : State τ → Prop) (sink : Sink) (first : State τ)
    (result : Option (Except Failure α × World σ)) (arrived : α → World σ → State τ → Prop) :
    Prop :=
  match result with
  | none => ∃ count last, bound ≤ count ∧ Path scene.environment kind count first last
  | some (.ok value, world) =>
      ∃ count last, Path scene.environment kind count first last ∧ arrived value world last
  | some (.error failure, world) =>
      ∃ count last after, Path scene.environment kind count first last ∧ kind last ∧
        ¬ Broken last ∧ step scene.environment last = .failed failure after ∧
        after.output = sink.shown world.written ∧ after.warnings = world.warnings ∧
        scene.related world.store after.store

variable {scene} {kind : State τ → Prop}

theorem Laid.lt_size {ip stop : Nat} {code : List Op} (laid : scene.Laid kind ip code stop) :
    stop < scene.activation.ops.size := by
  induction code generalizing ip with
  | nil =>
      obtain ⟨rfl, inside⟩ := laid
      exact inside
  | cons op rest ih => exact ih laid.2

theorem Laid.stop_eq {ip stop : Nat} {code : List Op} (laid : scene.Laid kind ip code stop) :
    stop = ip + code.length := by
  induction code generalizing ip with
  | nil => exact laid.1.symm
  | cons op rest ih =>
      rw [ih laid.2, List.length_cons]
      omega

theorem laid_cons {ip stop : Nat} {op : Op} {rest : List Op} :
    scene.Laid kind ip (op :: rest) stop ↔
      scene.At kind ip op ∧ scene.Laid kind (ip + 1) rest stop :=
  Iff.rfl

theorem laid_append {ip stop : Nat} {first second : List Op} :
    scene.Laid kind ip (first ++ second) stop ↔
      ∃ middle, scene.Laid kind ip first middle ∧ scene.Laid kind middle second stop := by
  induction first generalizing ip with
  | nil =>
      constructor
      · intro laid
        have inside := laid.lt_size
        have ahead := laid.stop_eq
        exact ⟨ip, ⟨rfl, by omega⟩, laid⟩
      · rintro ⟨middle, ⟨rfl, _⟩, laid⟩
        exact laid
  | cons op rest ih =>
      rw [List.cons_append, laid_cons, ih]
      constructor
      · rintro ⟨here, middle, laid, further⟩
        exact ⟨middle, ⟨here, laid⟩, further⟩
      · rintro ⟨middle, ⟨here, laid⟩, further⟩
        exact ⟨here, middle, laid, further⟩

end Scene

namespace Scene.Follows

variable {scene : Scene σ τ} {bound : Nat} {kind : State τ → Prop} {sink : Sink}
  {first next : State τ} {result : Option (Except Failure α × World σ)}
  {arrived : α → World σ → State τ → Prop}

theorem done {value : α} {world : World σ} (here : arrived value world first) :
    scene.Follows bound kind sink first (some (.ok value, world)) arrived :=
  ⟨0, first, .here first, here⟩

/-- A run that goes on as wanted after some steps. -/
theorem after {count : Nat} (path : Path scene.environment kind count first next)
    (rest : scene.Follows bound kind sink next result arrived) :
    scene.Follows (count + bound) kind sink first result arrived := by
  match result with
  | none =>
      obtain ⟨more, last, enough, continued⟩ := rest
      exact ⟨count + more, last, Nat.add_le_add_left enough count, path.trans continued⟩
  | some (.ok value, world) =>
      obtain ⟨more, last, continued, here⟩ := rest
      exact ⟨count + more, last, path.trans continued, here⟩
  | some (.error failure, world) =>
      obtain ⟨more, last, after, continued, failed⟩ := rest
      exact ⟨count + more, last, after, path.trans continued, failed⟩

theorem lower {bound' : Nat} (follows : scene.Follows bound kind sink first result arrived)
    (less : bound' ≤ bound) : scene.Follows bound' kind sink first result arrived := by
  match result with
  | none =>
      obtain ⟨count, last, enough, path⟩ := follows
      exact ⟨count, last, Nat.le_trans less enough, path⟩
  | some (.ok _, _) => exact follows
  | some (.error _, _) => exact follows

/-- A step counts where a loop goes round. -/
theorem tick (inside : kind first)
    (stepped : Machine.step scene.environment first = .running next)
    (rest : scene.Follows bound kind sink next result arrived) :
    scene.Follows (bound + 1) kind sink first result arrived := by
  rw [Nat.add_comm]
  exact after (.step inside stepped (.here next)) rest

theorem step (inside : kind first)
    (stepped : Machine.step scene.environment first = .running next)
    (rest : scene.Follows bound kind sink next result arrived) :
    scene.Follows bound kind sink first result arrived :=
  (tick inside stepped rest).lower (Nat.le_succ bound)

theorem mono {arrived' : α → World σ → State τ → Prop}
    (follows : scene.Follows bound kind sink first result arrived)
    (implies : ∀ value world last, arrived value world last → arrived' value world last) :
    scene.Follows bound kind sink first result arrived' := by
  match result with
  | none => exact follows
  | some (.ok value, world) =>
      obtain ⟨count, last, path, here⟩ := follows
      exact ⟨count, last, path, implies value world last here⟩
  | some (.error _, _) => exact follows

/-- Where the machine arrives, the action has the value and the world that belong there. -/
theorem acted (follows : scene.Follows bound kind sink first result arrived) :
    scene.Follows bound kind sink first result fun value world last =>
      result = some (.ok value, world) ∧ arrived value world last := by
  match result with
  | none => exact follows
  | some (.ok value, world) =>
      obtain ⟨count, last, path, here⟩ := follows
      exact ⟨count, last, path, rfl, here⟩
  | some (.error _, _) => exact follows

/-- The machine may go on after an action. -/
theorem onward {arrived' : α → World σ → State τ → Prop}
    (follows : scene.Follows bound kind sink first result arrived)
    (further : ∀ value world last, arrived value world last →
      scene.Follows bound kind sink last (some (.ok value, world)) arrived') :
    scene.Follows bound kind sink first result arrived' := by
  match result with
  | none => exact follows
  | some (.ok value, world) =>
      obtain ⟨_, last, path, here⟩ := follows
      exact (Follows.after path (further value world last here)).lower (Nat.le_add_left ..)
  | some (.error _, _) => exact follows

/-- Two actions in a row are followed one after the other. -/
theorem bind {action : Action σ α} {further : α → Action σ β} {world : World σ}
    {arrived' : β → World σ → State τ → Prop}
    (begun : scene.Follows bound kind sink first (action world) arrived)
    (continued : ∀ value after last, arrived value after last →
      scene.Follows bound kind sink last (further value after) arrived') :
    scene.Follows bound kind sink first ((action >>= further) world) arrived' := by
  cases acted : action world with
  | none =>
      rw [acted] at begun
      rw [Action.bind_none acted]
      exact begun
  | some outcome =>
      obtain ⟨result, after⟩ := outcome
      rw [acted] at begun
      cases result with
      | error failure =>
          rw [Action.bind_error acted]
          exact begun
      | ok value =>
          obtain ⟨_, last, path, here⟩ := begun
          rw [Action.bind_ok acted]
          exact (Follows.after path (continued value after last here)).lower (Nat.le_add_left ..)

/-- What follows an action with a changed value follows the action. -/
theorem unmap {action : Action σ α} {change : α → β} {world : World σ}
    {arrived' : β → World σ → State τ → Prop}
    (follows : scene.Follows bound kind sink first ((change <$> action) world) arrived') :
    scene.Follows bound kind sink first (action world) fun value => arrived' (change value) := by
  rw [map_eq_pure_bind] at follows
  cases acted : action world with
  | none =>
      rw [Action.bind_none acted] at follows
      exact follows
  | some outcome =>
      obtain ⟨result, after⟩ := outcome
      cases result with
      | error failure =>
          rw [Action.bind_error acted] at follows
          exact follows
      | ok value =>
          rw [Action.bind_ok acted] at follows
          exact follows

/-- The machine raises a failure where the rendering ends with it. -/
theorem raise {failure : Failure} {failed : State τ} {world : World σ} (inside : kind first)
    (sound : ¬ Broken first)
    (stepped : Machine.step scene.environment first = Machine.raise failure failed)
    (trace : failed.trace = scene.context.trace) (output : failed.output = sink.shown world.written)
    (warnings : failed.warnings = world.warnings)
    (related : scene.related world.store failed.store) :
    scene.Follows bound kind sink first
      (some (.error (failure.out scene.context.trace), world)) arrived := by
  have shows := failed.shows_unwound
  rw [raise_eq, trace] at stepped
  refine ⟨0, first, _, .here first, inside, sound, stepped, shows.output.trans output,
    shows.warnings.trans warnings, ?_⟩
  rw [shows.store]
  exact related

/-- The machine fails where the rendering does. -/
theorem fail {fault : Fault} {failed : State τ} {world : World σ} (inside : kind first)
    (sound : ¬ Broken first)
    (stepped : Machine.step scene.environment first = Machine.fail failed fault)
    (trace : failed.trace = scene.context.trace) (output : failed.output = sink.shown world.written)
    (warnings : failed.warnings = world.warnings)
    (related : scene.related world.store failed.store) :
    scene.Follows bound kind sink first (Meaning.fail scene.context fault world) arrived :=
  raise inside sound stepped trace output warnings related

/-- A run that leaves a kind of states, and not too late, does so where the action arrives. -/
theorem exit {count : Nat} {last : State τ}
    (follows : scene.Follows bound kind sink first result arrived)
    (path : Path scene.environment kind count first last) (out : ¬ kind last) (few : count < bound)
    (outside : ∀ value world last, arrived value world last → ¬ kind last) :
    ∃ value world, arrived value world last := by
  match result, follows with
  | none, ⟨more, _, enough, inside⟩ =>
      have := path.le_of_exit inside out
      omega
  | some (.ok value, world), ⟨_, _, inside, here⟩ =>
      obtain rfl := path.exit_eq inside out (outside value world _ here)
      exact ⟨value, world, here⟩
  | some (.error failure, world), ⟨more, stuck, _, inside, within, _, failed, _⟩ =>
      have notLater := path.le_of_exit inside out
      obtain shorter | rfl := Nat.lt_or_eq_of_le notLater
      · obtain ⟨next, stepped⟩ := path.step_of_lt inside shorter
        rw [stepped] at failed
        cases failed
      · obtain rfl := path.last_eq inside
        exact absurd within out

/-- Where a run is followed to its end there are no broken states on its way. -/
theorem not_broken {count : Nat} {state : State τ} {all : State τ → Prop}
    (follows : scene.Follows bound kind sink first result arrived)
    (path : Path scene.environment all count first state) (few : count < bound)
    (stops : ∀ value world last, arrived value world last → ¬ Broken last ∧
      ∀ next, Machine.step scene.environment last ≠ .running next) : ¬ Broken state := by
  match result, follows with
  | none, ⟨more, _, enough, inside⟩ =>
      obtain ⟨next, stepped⟩ := inside.step_of_lt path (Nat.lt_of_lt_of_le few enough)
      exact not_broken_of_running stepped
  | some (.ok value, world), ⟨more, _, inside, here⟩ =>
      obtain ⟨sound, halts⟩ := stops value world _ here
      obtain shorter | rfl | longer := Nat.lt_trichotomy count more
      · obtain ⟨next, stepped⟩ := inside.step_of_lt path shorter
        exact not_broken_of_running stepped
      · obtain rfl := path.last_eq inside
        exact sound
      · obtain ⟨next, stepped⟩ := path.step_of_lt inside longer
        exact absurd stepped (halts next)
  | some (.error failure, world), ⟨more, _, _, inside, _, sound, failed, _⟩ =>
      obtain shorter | rfl | longer := Nat.lt_trichotomy count more
      · obtain ⟨next, stepped⟩ := inside.step_of_lt path shorter
        exact not_broken_of_running stepped
      · obtain rfl := path.last_eq inside
        exact sound
      · obtain ⟨next, stepped⟩ := path.step_of_lt inside longer
        rw [stepped] at failed
        cases failed

end Scene.Follows

end Stencil.Machine

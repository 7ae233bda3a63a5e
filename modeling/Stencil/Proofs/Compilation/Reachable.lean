import Stencil.Proofs.Compilation.Runs
import Stencil.Proofs.Compilation.Texts
import Stencil.Proofs.Machine.SlotStack

/-!
# Reachable states

Wherever a run of compiled code comes, each activation runs a stream of code that was compiled from
a text. Around such a state there is a scene in which the code of each node of the text does what
the node does.
-/

namespace Stencil.Machine

variable {σ : Type} {environment : Environment σ} {dialects : Token.Dialect → Prop}
  {holds : σ → Prop} {state next : State σ}

namespace Activation

/-- What an activation was started for: the stream of a macro, with its parameters, or the one of a
whole template. -/
def body? (activation : Activation) : Option MacroCode :=
  match activation.origin with
  | .callMacro name => Dictionary.find? activation.code.macros name
  | .start _ | .inclusion _ => some ⟨[], activation.code.ops⟩

/-- With how many arguments an activation begins. -/
def arity (activation : Activation) : Nat :=
  (activation.body?.map (·.parameters.length)).getD 0

/-- An activation of code that comes from a text, in the stream that it was started for. -/
structure Stems (dialects : Token.Dialect → Prop) (activation : Activation) : Prop where
  source : ∃ template, FromText dialects template activation.code
  stream : ∃ body, activation.body? = some body ∧ activation.ops = body.ops.toArray

theorem Stems.of_eq {activation next : Activation} (stems : activation.Stems dialects)
    (origin : next.origin = activation.origin) (code : next.code = activation.code)
    (ops : next.ops = activation.ops) : next.Stems dialects := by
  obtain ⟨source, body, found, stream⟩ := stems
  refine ⟨code ▸ source, body, ?_, ops ▸ stream⟩
  rw [body?, origin, code]
  exact found

end Activation

/-- A state of a run of code that comes from texts. -/
structure Stems (environment : Environment σ) (dialects : Token.Dialect → Prop) (holds : σ → Prop)
    (state : State σ) : Prop where
  current : state.current.Stems dialects
  callers : ∀ caller ∈ state.callers, caller.Stems dialects
  stacked : Stacked 0 state.slots.length (state.current :: state.callers)
  depth : state.depth = state.callers.length
  room : state.depth ≤ environment.limits.maxDepth
  store : holds state.store

theorem Stems.stays (stems : Stems environment dialects holds state) (stays : Stays state next)
    (origin : next.current.origin = state.current.origin)
    (stacked : Stacked 0 next.slots.length (next.current :: next.callers)) :
    Stems environment dialects holds next where
  current := stems.current.of_eq origin stays.code stays.ops
  callers := stays.callers ▸ stems.callers
  stacked := stacked
  depth := by rw [stays.depth, stays.callers, stems.depth]
  room := by rw [stays.depth]; exact stems.room
  store := stays.store ▸ stems.store

theorem Stems.enters (compiling : ∀ load ∈ environment.loader, Compiling dialects holds load)
    (stems : Stems environment dialects holds state) (enters : Enters environment state next)
    (stacked : Stacked 0 next.slots.length (next.current :: next.callers)) :
    Stems environment dialects holds next := by
  have callers : ∀ caller ∈ next.callers, caller.Stems dialects := by
    rw [enters.callers]
    exact List.forall_mem_cons.mpr ⟨stems.current, stems.callers⟩
  have depth : next.depth = next.callers.length := by
    rw [enters.depth, enters.callers, List.length_cons, stems.depth]
  obtain ⟨name, body, origin, found, code, ops, _, store⟩ |
    ⟨load, name, origin, present, loaded, ops, _⟩ := enters.callee
  · refine ⟨⟨?_, body, ?_, ops⟩, callers, stacked, depth, enters.room, ?_⟩
    · rw [code]
      exact stems.current.source
    · rw [Activation.body?, origin, code]
      exact found
    · rw [store]
      exact stems.store
  · obtain ⟨kept, compiled⟩ := compiling load present
    have held := kept name state.store stems.store
    have source := compiled name state.store next.current.code stems.store (by rw [loaded])
    rw [loaded] at held
    refine ⟨⟨source, ⟨[], next.current.code.ops⟩, ?_, ops⟩, callers, stacked, depth, enters.room,
      held⟩
    rw [Activation.body?, origin]

theorem Stems.leaves (stems : Stems environment dialects holds state) (leaves : Leaves state next)
    (stacked : Stacked 0 next.slots.length (next.current :: next.callers)) :
    Stems environment dialects holds next := by
  obtain ⟨caller, callers, current⟩ := leaves.caller
  obtain ⟨first, others⟩ := List.forall_mem_cons.mp (callers ▸ stems.callers)
  have depth := stems.depth
  rw [callers, List.length_cons] at depth
  have shallower := leaves.depth
  have room := stems.room
  refine ⟨?_, others, stacked, by omega, by omega, leaves.store ▸ stems.store⟩
  rw [current]
  exact first.of_eq rfl rfl rfl

/-- Steps lead from such states to such states. -/
theorem Stems.step (compiling : ∀ load ∈ environment.loader, Compiling dialects holds load)
    (stems : Stems environment dialects holds state)
    (stepped : Machine.step environment state = .running next) :
    Stems environment dialects holds next := by
  have stacked : Stacked 0 next.slots.length (next.current :: next.callers) := by
    obtain ⟨above, callers, stacked⟩ | ⟨_, _, _, absurd, _⟩ :=
      stems.stacked.step (List.append_nil _).symm stepped
    · rwa [callers, List.append_nil]
    · cases absurd
  obtain ⟨op, found⟩ := op_of_step stepped
  cases effect_of_step found stepped with
  | stays stays works _ => exact stems.stays stays works.origin stacked
  | enters _ enters => exact stems.enters compiling enters stacked
  | leaves _ leaves => exact stems.leaves leaves stacked

theorem stems_start {template : Template} {code : Code} {store : σ}
    (source : FromText dialects template code) (held : holds store) :
    Stems environment dialects holds (start code store) where
  current := ⟨⟨template, source⟩, _, rfl, rfl⟩
  callers := nofun
  stacked := ⟨Nat.zero_le _, rfl⟩
  depth := rfl
  room := Nat.zero_le _
  store := held

theorem Stems.path (compiling : ∀ load ∈ environment.loader, Compiling dialects holds load)
    {kind : State σ → Prop} {count : Nat} (stems : Stems environment dialects holds state)
    (path : Path environment kind count state next) : Stems environment dialects holds next := by
  induction path with
  | here state => exact stems
  | step _ stepped _ ih => exact ih (stems.step compiling stepped)

/-- A macro of a template has a frame of its own. -/
theorem mem_frames_of_definition? {template : Template} {name : String}
    {definition : Meaning.Definition}
    (found : Meaning.definition? name template.nodes = some definition) :
    ⟨definition.parameters, definition.body⟩ ∈ template.frames := by
  obtain ⟨place, declared⟩ := Meaning.macroDef_mem_of_definition? found
  have among := Node.walk_subset_walkAll declared List.mem_cons_self
  exact List.mem_cons_of_mem _ (List.mem_filterMap.mpr ⟨_, among, rfl⟩)

/-- The stream of an activation is the code of a frame of its template, with as many parameters as
the activation has arguments. -/
theorem Activation.Stems.frame {activation : Activation} (stems : activation.Stems dialects)
    {template : Template} (built : Built template activation.code) :
    ∃ body ∈ template.frames, body.parameters.length = activation.arity ∧
      Streams template.Declares body.nodes activation.ops.toList := by
  obtain ⟨-, code, found, stream⟩ := stems
  rw [arity, found, stream]
  unfold body? at found
  split at found
  · next name _ =>
      have macros := built.macros name
      rw [found] at macros
      generalize defined : Meaning.definition? name template.nodes = definition at macros
      cases macros with
      | present parameters streams =>
          exact ⟨_, mem_frames_of_definition? defined, rfl, streams⟩
  · cases found
    exact ⟨_, List.mem_cons_self, rfl, built.body⟩
  · cases found
    exact ⟨_, List.mem_cons_self, rfl, built.body⟩

/-- Each stream of code that belongs to a template is the stream of some of its nodes. -/
theorem Activation.Stems.streams {activation : Activation} (stems : activation.Stems dialects)
    {template : Template} (built : Built template activation.code) :
    ∃ nodes ops, Streams template.Declares nodes ops ∧ activation.ops = ops.toArray := by
  obtain ⟨body, _, _, streams⟩ := stems.frame built
  exact ⟨body.nodes, _, streams, activation.ops.toArray_toList.symm⟩

/-- The slots of compiled code are narrow. -/
theorem Stems.narrow (stems : Stems environment dialects holds state) : state.Narrow := by
  obtain ⟨template, source⟩ := stems.current.source
  obtain ⟨nodes, ops, streams, stream⟩ := stems.current.streams source.built
  intro op found
  rw [stream, List.getElem?_toArray] at found
  exact streams.narrow op (List.mem_of_getElem? found)

/-! ## The scene around a state -/

namespace State

def sink (state : State σ) : Sink :=
  match state.captures with
  | [] => .output
  | _ :: outer => .capture outer state.output

def pose (state : State σ) : Pose :=
  ⟨state.sink, state.operands, state.marks, state.current.ip, state.accumulator, state.second⟩

/-- The slots of the current activation. -/
def locals (state : State σ) : List Value :=
  state.slots.drop state.current.base

def world (state : State σ) : Meaning.World σ :=
  ⟨state.locals, state.captures.headD state.output, state.made, state.warnings, state.store⟩

theorem world_load (state : State σ) {slot : Nat} (small : slot < 0x8000000000000000) :
    state.world.load slot = state.load slot := by
  show (state.slots.drop state.current.base)[slot]?.getD .nil = _
  rw [State.load, slotAt_of_lt _ small, List.getElem?_drop]

end State

/-- Where the trees are rendered whose code is run. -/
noncomputable def surroundingsOf (environment : Environment σ) (dialects : Token.Dialect → Prop) :
    Meaning.Surroundings σ :=
  ⟨environment.library, environment.limits, environment.loader.map (treesBehind dialects),
    environment.«variables»⟩

namespace Scene

/-- A state is put together again from its pose and its world, where the scene has the rest. -/
theorem state_eq (scene : Scene σ σ) (activation : scene.activation = state.current)
    (callers : scene.callers = state.callers)
    (below : scene.below = state.slots.take state.current.base)
    (depth : scene.depth = state.depth) (within : state.current.base ≤ state.slots.length) :
    scene.state state.pose state.world state.store = state := by
  have base : (state.slots.take state.current.base).length = state.current.base :=
    List.length_take_of_le within
  unfold Scene.state State.world State.pose State.sink State.locals
  dsimp only
  rw [activation, callers, below, depth, base, List.take_append_drop]
  obtain ⟨accumulator, second, operands, marks, slots, current, callers, captures, depth, made,
    output, warnings, store⟩ := state
  cases captures with
  | nil => rfl
  | cons first outer => rfl

/-- The scene in which a state is, with the tree of the code that it runs. -/
noncomputable def around (environment : Environment σ) (dialects : Token.Dialect → Prop)
    (holds : σ → Prop) (rounds : Nat) (template : Template) (state : State σ) : Scene σ σ where
  surroundings := surroundingsOf environment dialects
  loader := environment.loader
  related store store' := store = store' ∧ holds store
  rounds := rounds
  definitions name := Meaning.definition? name template.nodes
  activation := state.current
  callers := state.callers
  below := state.slots.take state.current.base
  depth := state.depth

theorem state_around (holds : σ → Prop) (rounds : Nat) (template : Template)
    (within : state.current.base ≤ state.slots.length) :
    (around environment dialects holds rounds template state).state state.pose state.world
      state.store = state :=
  state_eq _ rfl rfl rfl rfl within

theorem ready_around (compiling : ∀ load ∈ environment.loader, Compiling dialects holds load)
    (stems : Stems environment dialects holds state) {template : Template}
    (built : Built template state.current.code) (rounds : Nat) :
    (around environment dialects holds rounds template state).Ready
      (calleesWithin (surroundingsOf environment dialects) rounds
        (environment.limits.maxDepth - state.depth)) template := by
  have loads := loads_of_compiling compiling
  refine ⟨?_, ⟨built, rfl⟩, loads⟩
  exact @serves_calleesWithin _ _ _ (around environment dialects holds rounds template state) loads
    (Nat.add_sub_cancel' stems.room)

end Scene

end Stencil.Machine

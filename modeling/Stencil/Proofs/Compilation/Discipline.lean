import Stencil.Proofs.Compilation.Correctness
import Stencil.Proofs.Compilation.Reachable

/-!
# Stack discipline

Compiled code never leads the machine to where a stack holds too little, code ends or a macro is
missing, and what belongs to a node or to a call leaves the stacks at the heights at which it found
them.
-/

namespace Stencil

/-- The code of a statement or an expression, with its prints fused or not. -/
def Node.HasCode (node : Node) (code : List Op) : Prop :=
  ∃ plain, (Generate.statement node = .ok plain ∨ Generate.expression node = .ok plain) ∧
    Fused plain code

/-- An expression that stands where a statement does has the same code. -/
theorem Generate.statement_of_expression {node : Node} {code : List Op}
    (generated : expression node = .ok code) : statement node = .ok code := by
  cases node with
  | text | print | discard | conditional | forLoop | whileLoop | macroDef | inclusion | wrapper =>
      cases generated
  | _ => exact generated

theorem Node.HasCode.generated {node : Node} {code : List Op} (has : node.HasCode code) :
    ∃ plain, Generate.statement node = .ok plain ∧ Fused plain code := by
  obtain ⟨plain, generated | generated, fused⟩ := has
  · exact ⟨plain, generated, fused⟩
  · exact ⟨plain, Generate.statement_of_expression generated, fused⟩

namespace Machine

open Meaning (World)

variable {σ : Type}

/-- The stacks are as high as they were, with the same operands and marks. -/
structure Balanced (first last : State σ) : Prop where
  operands : last.operands = first.operands
  marks : last.marks = first.marks
  captures : last.captures.length = first.captures.length

/-- Inside a part of the code of an activation, or in what is called from there. -/
def Within (height start stop : Nat) (state : State σ) : Prop :=
  height < state.callers.length ∨
    state.callers.length = height ∧ start ≤ state.current.ip ∧ state.current.ip < stop

theorem Sink.length_captures (sink : Sink) (written written' : String) :
    (sink.captures written).length = (sink.captures written').length := by
  cases sink with
  | output => rfl
  | capture outer shown => rfl

/-- Poses of one scene with the same stacks. -/
theorem Scene.balanced {τ : Type} {scene : Scene σ τ} {pose pose' : Pose} {world after : World σ}
    {store store' : τ} (sink : pose'.sink = pose.sink) (operands : pose'.operands = pose.operands)
    (marks : pose'.marks = pose.marks) :
    Balanced (scene.state pose world store) (scene.state pose' after store') := by
  refine ⟨operands, marks, ?_⟩
  show (pose'.sink.captures _).length = (pose.sink.captures _).length
  rw [sink]
  exact Sink.length_captures _ _ _

/-! ## Sound states -/

variable {environment : Environment σ} {dialects : Token.Dialect → Prop} {holds : σ → Prop}

/-- No run of compiled code comes to a broken state. -/
theorem sound_of_path (compiling : ∀ load ∈ environment.loader, Compiling dialects holds load)
    {template : Template} {code : Code} {store : σ} (source : FromText dialects template code)
    (held : holds store) {count : Nat} {state : State σ}
    (path : Path environment (fun _ => True) count (start code store) state) : ¬ Broken state := by
  have follows := @follows_render _ _ (surroundingsOf environment dialects) environment.loader
    _ template code store store (count + 1) source.built (loads_of_compiling compiling) ⟨rfl, held⟩
  refine follows.not_broken path (Nat.lt_succ_self count) ?_
  intro _ _ last halting
  constructor
  · exact fun broken => (broken_iff halting.halts).mp broken
  · intro next stepped
    rw [Scene.step_halt halting.halts, leave, halting.alone] at stepped
    cases stepped

/-! ## Nodes -/

/-- The code of a node stands before the end of its stream. -/
theorem prefix_before_halt {ops front code : List Op} {ip : Nat} (ends : ops = front ++ [.halt])
    (haltless : .halt ∉ code) (lies : code <+: ops.drop ip) (inside : ip < ops.length) :
    ∃ back, back ≠ [] ∧ ops = ops.take ip ++ code ++ back := by
  obtain ⟨back, joined⟩ := lies
  refine ⟨back, ?_, ?_⟩
  · rintro rfl
    rw [List.append_nil] at joined
    have last : (ops.drop ip).getLast? = some .halt := by
      rw [List.getLast?_drop, if_neg (Nat.not_le.mpr inside), ends, List.getLast?_concat]
    rw [← joined] at last
    exact haltless (List.mem_of_getLast? last)
  · rw [List.append_assoc, joined, List.take_append_drop]

/-- The code of a node lies in a scene where a state has come to it. -/
theorem laid_in_scene {state : State σ} (stems : Stems environment dialects holds state)
    {template : Template} (built : Built template state.current.code) {code : List Op}
    (haltless : .halt ∉ code) (lies : code <+: state.current.ops.toList.drop state.current.ip)
    (inside : state.current.ip < state.current.ops.toList.length) {scene : Scene σ σ}
    (current : scene.activation = state.current) (callers : scene.callers = state.callers) :
    scene.Laid (Within state.callers.length state.current.ip (state.current.ip + code.length))
      state.current.ip code (state.current.ip + code.length) := by
  obtain ⟨nodes, ops, streams, stream⟩ := stems.current.streams built
  obtain ⟨emitted, front, _, _, ends⟩ := streams.code
  obtain ⟨back, more, whole⟩ := prefix_before_halt (by rw [stream, ends]) haltless lies inside
  have narrow : ∀ op ∈ code, op.Narrow := by
    intro op found
    have among := List.mem_of_mem_drop (lies.subset found)
    rw [stream] at among
    exact streams.narrow op among
  rw [← current] at whole
  exact Scene.laid_of_toList whole more
    (by rw [List.length_take, current, Nat.min_eq_left inside.le]) narrow
    fun pose world store above below => .inr ⟨congrArg List.length callers, above, below⟩

/-- The code of a node lies in the scene around a state that has come to it. -/
theorem laid_within {state : State σ} (stems : Stems environment dialects holds state)
    {template : Template} (built : Built template state.current.code) {code : List Op}
    (haltless : .halt ∉ code) (lies : code <+: state.current.ops.toList.drop state.current.ip)
    (inside : state.current.ip < state.current.ops.toList.length) (rounds : Nat) :
    (Scene.around environment dialects holds rounds template state).Laid
      (Within state.callers.length state.current.ip (state.current.ip + code.length))
      state.current.ip code (state.current.ip + code.length) :=
  laid_in_scene stems built haltless lies inside rfl rfl

/-- The code of a node, where it runs to its end, has done what the node does. -/
theorem arrives_node (compiling : ∀ load ∈ environment.loader, Compiling dialects holds load)
    {state : State σ} (stems : Stems environment dialects holds state) {template : Template}
    (built : Built template state.current.code) {node : Node} (part : node ∈ template.walk)
    {code : List Op} (has : node.HasCode code)
    (lies : code <+: state.current.ops.toList.drop state.current.ip)
    (inside : state.current.ip < state.current.ops.toList.length) {count : Nat} {last : State σ}
    (path : Path environment
      (Within state.callers.length state.current.ip (state.current.ip + code.length)) count
      state last)
    (out : ¬ Within state.callers.length state.current.ip (state.current.ip + code.length) last) :
    ∃ after accumulator second store,
      Meaning.statement (surroundingsOf environment dialects)
        (Scene.calleesWithin (surroundingsOf environment dialects) (count + 1)
          (environment.limits.maxDepth - state.depth))
        (Scene.around environment dialects holds (count + 1) template state).context (count + 1)
        node state.world = some (.ok (), after) ∧
      last = (Scene.around environment dialects holds (count + 1) template state).state
        { state.pose with ip := state.current.ip + code.length, accumulator, second } after
        store := by
  let scene := Scene.around environment dialects holds (count + 1) template state
  let kind := Within (σ := σ) state.callers.length state.current.ip
    (state.current.ip + code.length)
  have ready := Scene.ready_around compiling stems built (count + 1)
  obtain ⟨plain, generated, fused⟩ := has.generated
  have performs := Scene.performs_statement ready generated fused fun inner below =>
    built.body.sound inner (Node.closed_walkAll template.nodes node part inner below)
  have laid := @laid_within _ _ _ holds _ stems _ built _
    (fused.haltless (Generate.haltless_statement generated)) lies inside (count + 1)
  have ran := (@performs kind (fun _ deeper => .inl deeper) state.pose state.world state.store _
    laid ⟨rfl, stems.store⟩).acted
  rw [Scene.state_around holds (count + 1) template stems.stacked.1] at ran
  obtain ⟨_, after, acted, accumulator, second, store, rfl, _⟩ :=
    ran.exit path out (Nat.lt_succ_self count) (by
      rintro _ after _ ⟨_, accumulator, second, store, rfl, _⟩ (deeper | ⟨_, _, before⟩)
      · exact Nat.lt_irrefl _ deeper
      · exact Nat.lt_irrefl _ before)
  exact ⟨after, accumulator, second, store, acted, rfl⟩

/-- The code of a node, where it runs to its end, leaves the stacks as they were. -/
theorem balanced_node (compiling : ∀ load ∈ environment.loader, Compiling dialects holds load)
    {state : State σ} (stems : Stems environment dialects holds state) (sound : ¬ Broken state)
    {template : Template} (built : Built template state.current.code) {node : Node}
    (part : node ∈ template.walk) {code : List Op} (has : node.HasCode code)
    (lies : code <+: state.current.ops.toList.drop state.current.ip) {count : Nat} {last : State σ}
    (path : Path environment
      (Within state.callers.length state.current.ip (state.current.ip + code.length)) count
      state last)
    (out : ¬ Within state.callers.length state.current.ip (state.current.ip + code.length) last) :
    last.callers = state.callers ∧ last.current.ops = state.current.ops ∧
      last.current.ip = state.current.ip + code.length ∧ Balanced state last := by
  have inside : state.current.ip < state.current.ops.toList.length := by
    by_contra outside
    refine sound ?_
    rw [Broken, Array.getElem?_eq_none (Nat.not_lt.mp outside)]
    trivial
  obtain ⟨after, accumulator, second, store, _, rfl⟩ :=
    arrives_node compiling stems built part has lies inside path out
  refine ⟨rfl, rfl, rfl, ?_⟩
  let scene := Scene.around environment dialects holds (count + 1) template state
  have balanced := @Scene.balanced _ _ scene state.pose { state.pose with
    ip := state.current.ip + code.length, accumulator, second } state.world after state.store store
    rfl rfl rfl
  rw [Scene.state_around holds (count + 1) template stems.stacked.1] at balanced
  exact balanced

/-! ## Calls -/

/-- A step to more callers is a call. -/
theorem call_of_more {state next : State σ} (stepped : step environment state = .running next)
    (more : state.callers.length < next.callers.length) :
    ∃ op, state.current.ops[state.current.ip]? = some op ∧ op.calls = true ∧
      Enters environment state next := by
  obtain ⟨op, found⟩ := op_of_step stepped
  cases effect_of_step found stepped with
  | stays stays _ _ =>
      rw [stays.callers] at more
      exact absurd more (Nat.lt_irrefl _)
  | enters calls enters => exact ⟨op, found, calls, enters⟩
  | leaves _ leaves =>
      obtain ⟨caller, callers, _⟩ := leaves.caller
      rw [callers, List.length_cons] at more
      omega

/-- Going back to a caller changes neither operands nor marks, and ends the capture of a macro. -/
theorem leave_cases {state : State σ} {caller : Activation} {callers : List Activation}
    (waiting : state.callers = caller :: callers) :
    ∃ returned, leave state = .running returned ∧ returned.callers = callers ∧
      returned.current.ip = caller.ip + 1 ∧ returned.operands = state.operands ∧
      returned.marks = state.marks ∧
      returned.captures =
        if state.current.origin.isMacro then state.captures.tail else state.captures := by
  unfold leave
  rw [waiting]
  exact ⟨_, rfl, rfl, rfl, rfl, rfl, rfl⟩

/-- What a call keeps that comes back. -/
structure Returned (state entered last : State σ) : Prop where
  callers : last.callers = state.callers
  behind : last.current.ip = state.current.ip + 1
  operands : last.operands = entered.operands
  marks : last.marks = entered.marks
  captures : last.captures.length = state.captures.length

theorem returned_of_halt {state entered halted : State σ}
    (enters : Enters environment state entered) (balanced : Balanced entered halted)
    (origin : halted.current.origin = entered.current.origin)
    (callers : halted.callers = entered.callers)
    (halts : halted.current.ops[halted.current.ip]? = some .halt) :
    ∃ returned, step environment halted = .running returned ∧ Returned state entered returned := by
  obtain ⟨returned, left, others, behind, operands, marks, captures⟩ :=
    leave_cases (callers.trans enters.callers)
  refine ⟨returned, (Scene.step_halt halts).trans left, others, behind,
    operands.trans balanced.operands, marks.trans balanced.marks, ?_⟩
  rw [origin] at captures
  obtain ⟨name, _, called, _, _, _, captured, _⟩ | ⟨_, name, included, _, _, _, captured⟩ :=
    enters.callee
  · have isMacro : entered.current.origin.isMacro = true := by rw [called]; rfl
    rw [captures, if_pos isMacro, List.length_tail, balanced.captures, captured]
    rfl
  · have noMacro : ¬ entered.current.origin.isMacro = true := by rw [included]; exact nofun
    rw [captures, if_neg noMacro, balanced.captures, captured]

/-- A macro or a template that is called comes back with the stacks as they were. -/
theorem returned_call (compiling : ∀ load ∈ environment.loader, Compiling dialects holds load)
    {state entered : State σ} (stems : Stems environment dialects holds state)
    (stepped : step environment state = .running entered)
    (more : state.callers.length < entered.callers.length) {count : Nat} {last : State σ}
    (path : Path environment (fun inner => state.callers.length < inner.callers.length) count
      entered last)
    (out : ¬ state.callers.length < last.callers.length) : Returned state entered last := by
  obtain ⟨_, _, _, enters⟩ := call_of_more stepped more
  have inside := stems.step compiling stepped
  obtain ⟨template, source⟩ := inside.current.source
  let scene := Scene.around environment dialects holds (count + 1) template entered
  let kind : State σ → Prop := fun inner => state.callers.length < inner.callers.length
  have ready := Scene.ready_around compiling inside source.built (count + 1)
  obtain ⟨nodes, ops, streams, stream⟩ := inside.current.streams source.built
  obtain ⟨plain, code, emits, fused, rfl⟩ := streams.code
  have performs := Scene.performs_emits ready emits fused streams.sound
  have high (pose : Pose) (world : World σ) (store : σ) : kind (scene.state pose world store) := by
    show state.callers.length < entered.callers.length
    rw [enters.callers]
    exact Nat.lt_succ_self _
  have laid : scene.Laid kind entered.current.ip code (entered.current.ip + code.length) :=
    @Scene.laid_of_toList _ _ scene kind [] code [.halt] entered.current.ip
      (congrArg Array.toList stream) nofun enters.begins
      (fun op found => streams.narrow op (List.mem_append_left _ found))
      fun pose world store _ _ => high pose world store
  have deep : scene.Deep kind := fun deeper more =>
    Nat.lt_trans (high entered.pose entered.world entered.store) more
  have ran := @performs kind deep entered.pose entered.world entered.store _ laid
    ⟨rfl, inside.store⟩
  have same : scene.state entered.pose entered.world entered.store = entered :=
    Scene.state_around holds (count + 1) template inside.stacked.1
  rw [same] at ran
  have back := ran.onward fun value after halted arrived =>
    show scene.Follows (count + 1) kind entered.pose.sink halted (some (.ok value, after))
        (fun _ _ last => Returned state entered last) by
      obtain ⟨accumulator, second, store, rfl, _⟩ := arrived
      let pose := { entered.pose with
        ip := entered.current.ip + code.length, accumulator, second }
      have balanced := @Scene.balanced _ _ scene entered.pose pose entered.world after entered.store
        store rfl rfl rfl
      rw [same] at balanced
      have halts : entered.current.ops[entered.current.ip + code.length]? = some .halt := by
        rw [stream, enters.begins, Nat.zero_add]
        simp
      obtain ⟨returned, stepped, left⟩ := returned_of_halt enters balanced rfl rfl halts
      exact .step (high pose after store) stepped (.done left)
  obtain ⟨_, _, returned⟩ := back.exit path out (Nat.lt_succ_self count) (by
    intro _ _ last returned deeper
    have deeper : state.callers.length < last.callers.length := deeper
    rw [returned.callers] at deeper
    exact Nat.lt_irrefl _ deeper)
  exact returned

/-! ## Discipline -/

/-- How the stacks are used from a state on: no instruction finds too little, the code of a node
leaves them as they were wherever it runs to its end, and so does a call that comes back. -/
structure Disciplined (environment : Environment σ) (state : State σ) : Prop where
  sound : ¬ Broken state
  source : ∃ template, FromText (fun _ => True) template state.current.code
  node : ∀ template, FromText (fun _ => True) template state.current.code →
    ∀ node ∈ template.walk, ∀ code, node.HasCode code →
      code <+: state.current.ops.toList.drop state.current.ip →
        ∀ count last,
          Path environment
            (Within state.callers.length state.current.ip (state.current.ip + code.length)) count
            state last →
          ¬ Within state.callers.length state.current.ip (state.current.ip + code.length) last →
            last.callers = state.callers ∧ last.current.ops = state.current.ops ∧
              last.current.ip = state.current.ip + code.length ∧ Balanced state last
  call : ∀ entered, step environment state = .running entered →
    state.callers.length < entered.callers.length →
      ∀ count last,
        Path environment (fun inner => state.callers.length < inner.callers.length) count entered
          last →
        ¬ state.callers.length < last.callers.length → Returned state entered last

/-- Compiled code keeps the discipline of the stacks in each state that its runs come to. -/
theorem compiled_is_disciplined {text : Text} {optimize : Bool} {name : String} {code : Code}
    {store : σ} {count : Nat} {state : State σ}
    (compiling : ∀ load ∈ environment.loader, Compiling (fun _ => True) holds load)
    (compiled : text.compile optimize name = .ok code) (held : holds store)
    (reached : runFor environment count (start code store) = .running state) :
    Disciplined environment state := by
  obtain ⟨template, source⟩ := @fromText_of_compile (fun _ => True) _ _ _ _ trivial compiled
  have path := path_of_runFor reached
  have sound := sound_of_path compiling source held path
  have stems := (stems_start source held).path compiling path
  constructor
  · exact sound
  · exact stems.current.source
  · intro template source node part code has lies count last path out
    exact balanced_node compiling stems sound source.built part has lies path out
  · intro entered stepped more count last path out
    exact returned_call compiling stems stepped more path out

theorem page_is_disciplined :
    ∃ code state, page.compile true "page" = .ok code ∧
      runFor ⟨.builtins, .standard, some (loaderOf true parts), []⟩ 40 (start code ()) =
        .running state ∧
      Disciplined ⟨.builtins, .standard, some (loaderOf true parts), []⟩ state := by
  have ran : ((page.compile true "page").toOption.map fun code =>
      (runFor ⟨.builtins, .standard, some (loaderOf true parts), []⟩ 40
        (start code ())).ending) = some .unfinished := by
    decide +kernel
  have compiling : ∀ load ∈ some (loaderOf true parts),
      Compiling (fun _ => True) (fun _ => True) load := by
    intro load found
    obtain rfl := Option.some.inj found
    exact compiling_of_texts true parts fun _ _ _ _ _ => trivial
  cases made : page.compile true "page" with
  | error failure =>
      rw [made] at ran
      cases ran
  | ok code =>
      rw [made] at ran
      cases reached : runFor ⟨.builtins, .standard, some (loaderOf true parts), []⟩ 40
          (start code ()) with
      | running state =>
          exact ⟨code, state, rfl, reached, compiled_is_disciplined compiling made trivial reached⟩
      | finished state =>
          rw [Except.toOption, Option.map_some, reached] at ran
          cases ran
      | failed failure state =>
          rw [Except.toOption, Option.map_some, reached] at ran
          cases ran

end Machine

end Stencil

import Stencil.Proofs.Compilation.Blocks
import Stencil.Proofs.Compilation.Built

/-!
# Calls

A call of a macro, or of another template, runs the code of the callee in a scene of its own, behind
which the caller goes on. Where calls are nested as deep as they may, it fails instead.
-/

namespace Stencil.Machine

open Meaning (Action Context Definition Renderer Trees World captured definition?)

variable {σ τ : Type}

/-- Where a name leads to a tree it leads to code that belongs to the tree, and else to the same
failure. -/
def Loads (pairs : Template → Code → Prop) (related : σ → τ → Prop) :
    Option (Trees σ) → Option (Loader τ) → Prop
  | none, none => True
  | some find, some load => ∀ name store store', related store store' →
      match find name store, load name store' with
      | (.ok template, after), (.ok code, after') => pairs template code ∧ related after after'
      | (.error failure, after), (.error failure', after') =>
          failure = failure' ∧ related after after'
      | _, _ => False
  | _, _ => False

theorem Loads.mono {pairs pairs' : Template → Code → Prop} {related : σ → τ → Prop}
    {trees : Option (Trees σ)} {loader : Option (Loader τ)}
    (loads : Loads pairs related trees loader)
    (implies : ∀ template code, pairs template code → pairs' template code) :
    Loads pairs' related trees loader := by
  match trees, loader, loads with
  | none, none, _ => trivial
  | some find, some load, loads =>
      intro name store store' matched
      have agree := loads name store store' matched
      revert agree
      rcases find name store with ⟨_ | template, _⟩ <;> rcases load name store' with ⟨_ | code, _⟩
      · exact id
      · exact id
      · exact id
      · exact fun ⟨paired, matched⟩ => ⟨implies template code paired, matched⟩

namespace Scene

/-- The activation that goes on after a call. -/
def caller (scene : Scene σ τ) (pose : Pose) : Activation :=
  { scene.activation with ip := pose.ip, base := scene.below.length }

/-- The scene of what is called in a pose and a world, in which its caller goes on later. -/
def callee (scene : Scene σ τ) (template : Template) (activation : Activation) (pose : Pose)
    (world : World σ) : Scene σ τ :=
  { scene with
    definitions := fun name => definition? name template.nodes
    activation
    callers := scene.caller pose :: scene.callers
    below := scene.below ++ world.slots
    depth := scene.depth + 1 }

/-- The code of the scene belongs to a template. -/
structure Fits (scene : Scene σ τ) (template : Template) : Prop where
  built : Built template scene.activation.code
  definitions : scene.definitions = fun name => definition? name template.nodes

/-- The code of callees does what rendering them does, unless calls are as deep as they may be. -/
def Serves (scene : Scene σ τ) : Option (Renderer σ) → Prop
  | none => scene.surroundings.limits.maxDepth < scene.depth + 1
  | some render => scene.depth + 1 ≤ scene.surroundings.limits.maxDepth ∧
      ∀ template activation pose world nodes code, Built template activation.code →
        Streams template.Declares nodes (code ++ [.halt]) →
        activation.ops = (code ++ [.halt]).toArray →
        (scene.callee template activation pose world).Performs code
          (render (scene.callee template activation pose world).context nodes)

variable {scene : Scene σ τ} {kind : State τ → Prop}

/-- Code that stands in the stream of the scene. -/
theorem laid_of_toList {front code back : List Op} {start : Nat}
    (stream : scene.activation.ops.toList = front ++ code ++ back) (more : back ≠ [])
    (begins : start = front.length) (narrow : ∀ op ∈ code, op.Narrow)
    (all : ∀ pose world store, start ≤ pose.ip → pose.ip < start + code.length →
      kind (scene.state pose world store)) :
    scene.Laid kind start code (start + code.length) := by
  induction code generalizing front start with
  | nil =>
      have positive := List.length_pos_iff.mpr more
      have size := congrArg List.length stream
      rw [List.append_nil, List.length_append, Array.length_toList] at size
      exact ⟨rfl, by omega⟩
  | cons op rest ih =>
      have here : scene.activation.ops[start]? = some op := by
        rw [← Array.getElem?_toList, stream, begins, List.append_assoc,
          List.getElem?_append_right (Nat.le_refl _), Nat.sub_self]
        rfl
      have split : front ++ op :: rest ++ back = front ++ [op] ++ rest ++ back := by simp
      have further : scene.Laid kind (start + 1) rest (start + 1 + rest.length) :=
        ih (stream.trans split) (by simp [begins])
          (fun op among => narrow op (List.mem_cons_of_mem _ among))
          fun pose world store above below =>
            all pose world store (by omega) (by rw [List.length_cons]; omega)
      refine ⟨⟨here, narrow op List.mem_cons_self, fun pose world store at_ =>
        all pose world store ?_ ?_⟩, ?_⟩
      · omega
      · rw [at_, List.length_cons]
        omega
      · rw [List.length_cons, Nat.add_comm rest.length, ← Nat.add_assoc]
        exact further

namespace Follows

variable {bound : Nat} {sink : Sink} {first : State τ} {α : Type}

/-- Text that is captured is followed into a capture. -/
theorem captured {action : Action σ Unit} {world : World σ}
    {arrived : Unit → World σ → State τ → Prop}
    (follows : scene.Follows bound kind
      (.capture (sink.captures world.written) (sink.shown world.written)) first
      (action { world with written := "" }) arrived) :
    scene.Follows bound kind sink first (captured action world) fun text after last =>
      after.written = world.written ∧ arrived () { after with written := text } last := by
  unfold Meaning.captured
  match action { world with written := "" }, follows with
  | none, follows => exact follows
  | some (.error _, _), follows => exact follows
  | some (.ok (), inner), ⟨count, last, path, here⟩ => exact ⟨count, last, path, rfl, here⟩

/-- The slots of the caller are back after a call. -/
theorem restored {result : Option (Except Failure α × World σ)} {slots : List Value}
    {arrived : α → World σ → State τ → Prop}
    (follows : scene.Follows bound kind sink first result arrived) :
    scene.Follows bound kind sink first
      (result.map fun (value, after) => (value, { after with slots })) fun value after last =>
        after.slots = slots ∧ ∃ inner, arrived value { after with slots := inner } last := by
  match result, follows with
  | none, follows => exact follows
  | some (.error _, _), follows => exact follows
  | some (.ok _, inner), ⟨count, last, path, here⟩ =>
      exact ⟨count, last, path, rfl, inner.slots, here⟩

end Follows

/-- The end of a callee whose caller goes on behind the call. -/
structure Returning (scene callee : Scene σ τ) (kind : State τ → Prop) (pose : Pose)
    (world after : World σ) (last : State τ) : Prop where
  inside : kind last
  halts : last.current.ops[last.current.ip]? = some .halt
  slots : after.slots = world.slots
  here : ∃ accumulator second inner store ip,
    last = callee.state { pose with ip, accumulator, second } { after with slots := inner } store ∧
    scene.related after.store store

/-- A step that begins a call, unless calls are as deep as they may be, is followed by the rendering
of what is called. -/
theorem Serves.follows {render? : Option (Renderer σ)} (serves : scene.Serves render?)
    (deep : scene.Deep kind) {template : Template} {activation : Activation} {nodes : List Node}
    {ops : List Op} {arguments : List Value} {first counted : State τ} {outer pose : Pose}
    {around world : World σ} {store : τ} {name : String} (inside : kind first)
    (sound : ¬ Broken first)
    (stepped : step scene.environment first =
      if scene.surroundings.limits.maxDepth < scene.depth + 1 then
        fail counted (.callTooDeep scene.surroundings.limits.maxDepth name)
      else .running ((scene.callee template activation outer around).state { pose with ip := 0 }
        { world with slots := arguments } store))
    (trace : counted.trace = scene.context.trace)
    (output : counted.output = pose.sink.shown world.written)
    (warnings : counted.warnings = world.warnings)
    (unstored : scene.related world.store counted.store)
    (built : Built template activation.code) (streams : Streams template.Declares nodes ops)
    (stream : activation.ops = ops.toArray) {inner : Context}
    (context : (scene.callee template activation outer around).context = inner)
    (related : scene.related world.store store) :
    scene.Follows scene.rounds kind pose.sink first
      (Meaning.call scene.surroundings render? scene.context name inner arguments nodes world)
      fun _ after last => Returning scene (scene.callee template activation outer around) kind pose
        world after last := by
  obtain rfl := context
  cases render? with
  | none =>
      have full : scene.surroundings.limits.maxDepth < scene.depth + 1 := serves
      rw [if_pos full] at stepped
      exact .fail inside sound stepped trace output warnings unstored
  | some render =>
      obtain ⟨room, calls⟩ := serves
      rw [if_neg (Nat.not_lt.mpr room)] at stepped
      obtain ⟨plain, code, emits, fused, rfl⟩ := streams.code
      have performs := calls template activation outer around nodes code built streams stream
      obtain ⟨origin, of, _, start, base, bindings⟩ := activation
      obtain rfl := stream
      let callee := scene.callee template
        ⟨origin, of, (code ++ [Op.halt]).toArray, start, base, bindings⟩ outer around
      have below : ∀ pose world store, kind (callee.state pose world store) := fun _ _ _ =>
        deep _ (Nat.lt_succ_self _)
      have laid : callee.Laid kind 0 code code.length := by
        have laid := @laid_of_toList _ _ callee kind [] code [.halt] 0 rfl nofun rfl
          (fun op among => streams.narrow op (List.mem_append_left _ among))
          fun pose world store _ _ => below pose world store
        rwa [Nat.zero_add] at laid
      have deeper : callee.Deep kind := fun state more => deep state (Nat.lt_of_succ_lt more)
      have ran := @performs kind deeper { pose with ip := 0 } { world with slots := arguments }
        store _ laid related
      refine .step inside stepped ((Follows.restored ran).mono ?_)
      rintro _ after last ⟨same, inner, accumulator, second, store, rfl, related⟩
      refine ⟨below _ _ _, ?_, same, accumulator, second, inner, store, _, rfl, related⟩
      show (code ++ [Op.halt]).toArray[code.length]? = some .halt
      simp

/-- The halt of a callee goes on behind the call. -/
theorem step_halt {environment : Environment τ} {state : State τ}
    (halts : state.current.ops[state.current.ip]? = some .halt) :
    step environment state = leave state := by
  rw [step_of_transfer halts rfl rfl, transfer]

/-! ## Macros -/

/-- What is known where a macro is called that is declared. -/
theorem Fits.declared {template : Template} (fits : scene.Fits template) {name : String}
    (declared : template.Declares name) :
    ∃ parameters body ops, scene.definitions name = some ⟨parameters, body⟩ ∧
      Dictionary.find? scene.activation.code.macros name = some ⟨parameters, ops⟩ ∧
      Streams template.Declares body ops := by
  have built := fits.built.macros name
  rw [← congrFun fits.definitions name] at built
  rw [Template.Declares, ← congrFun fits.definitions name] at declared
  generalize scene.definitions name = definition at built declared
  generalize Dictionary.find? scene.activation.code.macros name = code at built
  cases built with
  | missing => cases declared
  | present parameters streams => exact ⟨parameters, _, _, rfl, rfl, streams⟩

/-- The activation of a macro of the scene. -/
def macroActivation (scene : Scene σ τ) (name : String) (body : MacroCode) : Activation :=
  ⟨.callMacro name, scene.activation.code, body.ops.toArray, 0, 0, none⟩

theorem leave_callMacro {template : Template} {name : String} {body : MacroCode}
    {pose inner : Pose} {world after : World σ} {store : τ} (outer : Sink) (written : String)
    (capturing : inner.sink = .capture (outer.captures written) (outer.shown written)) :
    leave ((scene.callee template (scene.macroActivation name body) pose world).state inner after
      store) =
    .running (scene.state
      { inner with sink := outer, ip := pose.ip + 1, accumulator := .raw after.written }
      { after with slots := world.slots, written } store) := by
  obtain ⟨sink, operands, marks, ip, accumulator, second⟩ := inner
  obtain rfl := capturing
  unfold leave State.giveBack state callee
  dsimp only
  rw [List.take_left]
  rfl

theorem context_callMacro {template : Template} (fits : scene.Fits template) (name : String)
    (body : MacroCode) (pose : Pose) (world : World σ) :
    (scene.callee template (scene.macroActivation name body) pose world).context =
      scene.context.inMacro name := by
  unfold context Context.inMacro
  rw [fits.definitions]
  rfl

theorem step_callMacro {template : Template} {pose : Pose} {world : World σ} {store : τ}
    {name : String} {body : MacroCode} {values operands : List Value} {marks : List Nat}
    (here : scene.At kind pose.ip (.callMacro name))
    (found : Dictionary.find? scene.activation.code.macros name = some body)
    (stacked : pose.operands = values.reverse ++ operands)
    (marked : pose.marks = operands.length :: marks) :
    step scene.environment (scene.state pose world store) =
      if body.parameters.length ≠ values.length then
        fail (scene.state pose world store)
          (.arity "macro" name body.parameters.length values.length)
      else if scene.surroundings.limits.maxDepth < scene.depth + 1 then
        fail { scene.state { pose with operands, marks } world store with depth := scene.depth + 1 }
          (.callTooDeep scene.surroundings.limits.maxDepth s!"macro '{name}'")
      else
        .running ((scene.callee template (scene.macroActivation name body) pose world).state
          { pose with
            operands, marks, ip := 0
            sink := .capture (pose.sink.captures world.written) (pose.sink.shown world.written) }
          { world with written := "", slots := values } store) := by
  rw [here.step_transfer rfl rfl, transfer, callMacro, popMarked_eq stacked marked]
  simp only [show (scene.state pose world store).current.code = scene.activation.code from rfl,
    found]
  rfl

theorem follows_callMacro {render? : Option (Renderer σ)} {template : Template} {name : String}
    (serves : scene.Serves render?) (fits : scene.Fits template)
    (declared : template.Declares name) (deep : scene.Deep kind) {pose : Pose} {world : World σ}
    {store : τ} {values operands : List Value} {marks : List Nat}
    (here : scene.At kind pose.ip (.callMacro name))
    (stacked : pose.operands = values.reverse ++ operands)
    (marked : pose.marks = operands.length :: marks) (related : scene.related world.store store) :
    scene.Follows scene.rounds kind pose.sink (scene.state pose world store)
      (Meaning.callMacro scene.surroundings render? scene.context name values world)
      fun value after last => ∃ second store',
        last = scene.state
          { pose with ip := pose.ip + 1, operands, marks, accumulator := value, second }
          after store' ∧
        scene.related after.store store' := by
  obtain ⟨parameters, body, ops, defined, found, streams⟩ := fits.declared declared
  have sound : ¬ Broken (scene.state pose world store) := by
    refine here.not_broken ?_
    rintro (unmarked | missing)
    · exact not_unmarked stacked marked unmarked
    · exact nomatch found.symm.trans missing
  have inside := here.inside pose world store rfl
  have stepped := @step_callMacro _ _ _ _ template pose world store _ _ _ _ _ here found stacked
    marked
  unfold Meaning.callMacro
  rw [show scene.context.definitions name = _ from defined]
  dsimp only
  by_cases fitting : parameters.length ≠ values.length
  · rw [if_pos fitting] at stepped ⊢
    exact .fail inside sound stepped rfl rfl rfl related
  · rw [if_neg fitting] at stepped ⊢
    have entered := @Serves.follows _ _ _ _ _ serves deep template
      (scene.macroActivation name ⟨parameters, ops⟩) body ops values _ _ pose
      { pose with
        operands, marks
        sink := .capture (pose.sink.captures world.written) (pose.sink.shown world.written) }
      world { world with written := "" } store _ inside sound stepped rfl rfl rfl related fits.built
      streams rfl _ (context_callMacro fits name _ _ _) related
    refine entered.captured.bind ?_
    rintro text after last ⟨written, inside, halts, slots, accumulator, second, inner, store, ip,
      rfl, related⟩
    refine .step inside ((step_halt halts).trans (leave_callMacro _ _ rfl)) (.done ?_)
    exact ⟨second, store, by rw [← slots, ← written], related⟩

theorem Pushes.callMacro {render? : Option (Renderer σ)} {template : Template} {code : List Op}
    {action : Action σ (List Value)} {name : String} (serves : scene.Serves render?)
    (fits : scene.Fits template) (declared : template.Declares name)
    (pushes : scene.Pushes code action) :
    scene.Computes false ([Op.pushMark] ++ code ++ [Op.callMacro name]) (do
      let values ← action
      Meaning.callMacro scene.surroundings render? scene.context name values) := by
  intro kind deep pose world store stop whole related
  obtain ⟨_, front, here, rfl, _⟩ := laid_append.mp whole
  obtain ⟨mark, laid⟩ := laid_cons.mp front
  refine .here mark (step_pushMark mark) ?_
  refine (pushes deep laid related).bind ?_
  rintro values after _ ⟨_, second, store, rfl, related⟩
  refine (follows_callMacro serves fits declared deep here rfl rfl related).mono ?_
  rintro value after last ⟨second, store, rfl, related⟩
  exact ⟨second, store, rfl, related, nofun⟩

/-! ## Templates -/

/-- The activation of a template that is included. -/
def inclusionActivation (name : String) (code : Code) (bindings : Option (Dictionary Value)) :
    Activation :=
  ⟨.inclusion name, code, code.ops.toArray, 0, 0, bindings⟩

theorem leave_template {template : Template} {name : String} {code : Code}
    {bindings : Option (Dictionary Value)} {pose inner : Pose} {world after : World σ} {store : τ} :
    leave ((scene.callee template (inclusionActivation name code bindings) pose world).state inner
      after store) =
    .running (scene.state { inner with ip := pose.ip + 1, accumulator := .nil }
      { after with slots := world.slots } store) := by
  unfold leave State.giveBack state callee
  dsimp only
  rw [List.take_left]
  rfl

theorem context_inclusion {template : Template} {code : Code} (built : Built template code)
    (name : String) (bindings : Option (Dictionary Value)) (pose : Pose) (world : World σ) :
    (scene.callee template (inclusionActivation name code bindings) pose world).context =
      scene.context.inTemplate name template bindings := by
  unfold context Context.inTemplate
  rw [← built.name]
  cases bindings with
  | none => rfl
  | some entries => rfl

theorem runTemplate_eq (template : Template) {pose : Pose} {world : World σ} {store : τ}
    {load : Loader τ} {name : String} {bindings : Option (Dictionary Value)}
    (present : scene.loader = some load) :
    runTemplate scene.environment (scene.state pose world store) name bindings =
      match load name store with
      | (.error failure, after) => raise failure (scene.state pose world after)
      | (.ok code, after) =>
          if scene.surroundings.limits.maxDepth < scene.depth + 1 then
            fail { scene.state pose world after with depth := scene.depth + 1 }
              (.callTooDeep scene.surroundings.limits.maxDepth s!"include '{name}'")
          else
            .running ((scene.callee template (inclusionActivation name code bindings) pose
              world).state { pose with ip := 0 } { world with slots := [] } after) := by
  rw [runTemplate, show scene.environment.loader = _ from present]
  rfl

/-- An instruction that runs another template is followed by its rendering. -/
theorem follows_runTemplate {render? : Option (Renderer σ)} (serves : scene.Serves render?)
    (loads : Loads Built scene.related scene.surroundings.trees scene.loader)
    (deep : scene.Deep kind) {first : State τ} {pose : Pose} {world : World σ} {store : τ}
    {name : String} {bindings : Option (Dictionary Value)} (inside : kind first)
    (sound : ¬ Broken first)
    (stepped : step scene.environment first =
      runTemplate scene.environment (scene.state pose world store) name bindings)
    (related : scene.related world.store store) :
    scene.Follows scene.rounds kind pose.sink first
      (Meaning.runTemplate scene.surroundings render? scene.context name bindings world)
      fun _ after last => ∃ accumulator second store',
        last = scene.state { pose with ip := pose.ip + 1, accumulator, second } after store' ∧
        scene.related after.store store' := by
  unfold Meaning.runTemplate
  cases there : scene.surroundings.trees with
  | none =>
      cases here : scene.loader with
      | none =>
          rw [runTemplate, show scene.environment.loader = _ from here] at stepped
          exact .fail inside sound stepped rfl rfl rfl related
      | some load =>
          rw [there, here] at loads
          exact loads.elim
  | some find =>
      cases here : scene.loader with
      | none =>
          rw [there, here] at loads
          exact loads.elim
      | some load =>
          rw [there, here] at loads
          have agree := loads name world.store store related
          dsimp only
          revert agree stepped
          rcases find name world.store with ⟨failure | tree, kept⟩
          · rw [runTemplate_eq ⟨name, []⟩ here]
            rcases load name store with ⟨failure' | code, kept'⟩
            · rintro stepped ⟨rfl, related⟩
              exact .raise inside sound stepped rfl rfl rfl related
            · exact fun _ => False.elim
          · rw [runTemplate_eq tree here]
            rcases load name store with ⟨failure' | code, kept'⟩
            · exact fun _ => False.elim
            · rintro stepped ⟨built, related⟩
              refine (@Serves.follows _ _ _ _ _ serves deep tree
                (inclusionActivation name code bindings) tree.nodes code.ops [] _ _ pose pose world
                { world with store := kept } kept' _ inside sound stepped rfl rfl rfl related built
                built.body rfl _ (context_inclusion built name bindings _ _) related).onward ?_
              rintro _ after last ⟨inside, halts, slots, accumulator, second, inner, store, ip, rfl,
                related⟩
              refine .step inside ((step_halt halts).trans leave_template) (.done ?_)
              exact ⟨_, second, store, by rw [← slots], related⟩

theorem step_inclusion {pose : Pose} {world : World σ} {store : τ}
    {bindings : Option (Dictionary Value)} (here : scene.At kind pose.ip .inclusion)
    (passed : pose.second = ofPassed bindings) :
    step scene.environment (scene.state pose world store) =
      runTemplate scene.environment (scene.state { pose with second := .nil } world store)
        pose.accumulator.display bindings := by
  rw [here.step_transfer rfl rfl, transfer,
    show (scene.state pose world store).second = ofPassed bindings from passed, bindingsOf_ofPassed]
  rfl

theorem Computes.inclusion {render? : Option (Renderer σ)} {spared spared' : Bool}
    {code map : List Op} {first : Action σ Value} {second : Action σ (Option (Dictionary Value))}
    (serves : scene.Serves render?)
    (loads : Loads Built scene.related scene.surroundings.trees scene.loader)
    (computes : scene.Computes spared code first)
    (computes' : scene.Computes spared' map (ofPassed <$> second)) :
    scene.Performs (code ++ [Op.push] ++ map ++ [Op.moveToSecond, .pop] ++ [Op.inclusion]) (do
      let name ← first
      let bindings ← second
      Meaning.runTemplate scene.surroundings render? scene.context name.display bindings) := by
  intro kind deep pose world store stop whole related
  obtain ⟨ip, front, here, rfl, _⟩ := laid_append.mp whole
  refine computes.target computes' deep front related ?_
  intro name bindings after store related
  have stepped := @step_inclusion σ τ scene kind
    { pose with ip, accumulator := name, second := ofPassed bindings } after store bindings here rfl
  exact follows_runTemplate serves loads deep (here.inside _ after store rfl)
    (here.not_broken id) stepped related

theorem step_wrapper {pose : Pose} {world : World σ} {store : τ} {content : Value}
    {rest : List Value} {bindings : Option (Dictionary Value)}
    (here : scene.At kind pose.ip .wrapper) (passed : pose.second = ofPassed bindings)
    (stacked : pose.operands = content :: rest) :
    step scene.environment (scene.state pose world store) =
      runTemplate scene.environment
        (scene.state { pose with operands := rest, second := .nil } world store)
        pose.accumulator.display (some ((bindings.getD []).insert "content" content)) := by
  rw [here.step_transfer rfl rfl, transfer, wrap, pop_eq stacked]
  dsimp only
  rw [show (scene.state pose world store).second = ofPassed bindings from passed,
    bindingsOf_ofPassed]
  rfl

theorem Performs.wrapper {render? : Option (Renderer σ)} {spared spared' : Bool}
    {body code map : List Op} {content : Action σ Unit} {first : Action σ Value}
    {second : Action σ (Option (Dictionary Value))} (serves : scene.Serves render?)
    (loads : Loads Built scene.related scene.surroundings.trees scene.loader)
    (performs : scene.Performs body content) (computes : scene.Computes spared code first)
    (computes' : scene.Computes spared' map (ofPassed <$> second)) :
    scene.Performs ([Op.beginCapture] ++ body ++ [Op.endCapture, .push] ++
        (code ++ [Op.push] ++ map ++ [Op.moveToSecond, .pop]) ++ [Op.wrapper]) (do
      let text ← captured content
      let name ← first
      let bindings ← second
      Meaning.runTemplate scene.surroundings render? scene.context name.display
        (some ((bindings.getD []).insert "content" (.raw text)))) := by
  intro kind deep pose world store stop whole related
  obtain ⟨ip, both, here, rfl, _⟩ := laid_append.mp whole
  obtain ⟨_, before, front⟩ := laid_append.mp both
  obtain ⟨_, opened, close, push, rfl, _⟩ := laid_append.mp before
  obtain ⟨begin, inner⟩ := laid_cons.mp opened
  refine .here begin (step_beginCapture begin) ?_
  have ran := @performs kind deep { pose with
      ip := pose.ip + 1
      sink := .capture (pose.sink.captures world.written) (pose.sink.shown world.written) }
    { world with written := "" } store _ inner related
  refine ran.captured.bind ?_
  rintro text after _ ⟨written, accumulator, second, store, rfl, related⟩
  refine .here close (step_endCapture close rfl) ?_
  refine .here push (step_push push) ?_
  have back : after = { after with written := world.written } := by rw [← written]
  rw [← back]
  refine computes.target computes' deep front related ?_
  intro name bindings between store related
  have stepped := @step_wrapper σ τ scene kind
    { pose with
      ip
      operands := .raw text :: pose.operands
      accumulator := name
      second := ofPassed bindings }
    between store (.raw text) pose.operands bindings here rfl rfl
  refine follows_runTemplate serves loads deep (here.inside _ between store rfl)
    (here.not_broken ?_) stepped related
  exact List.cons_ne_nil _ _

end Scene

end Stencil.Machine

import Mathlib
import Stencil.Proofs.Compilation.Calls

/-!
# Code of expressions

The code of an expression computes the value that the expression has, whatever it calls.
-/

namespace Stencil.Machine.Scene

open Meaning (Action Renderer World answered)

variable {σ τ : Type} {scene : Scene σ τ}

/-- What is asked of a scene before its code is followed. -/
structure Ready (scene : Scene σ τ) (render? : Option (Renderer σ)) (template : Template) :
    Prop where
  serves : scene.Serves render?
  fits : scene.Fits template
  loads : Loads Built scene.related scene.surroundings.trees scene.loader

/-! ## Values that instructions and rendering make alike -/

theorem markRaw_eq (value : Value) : markRaw value = Meaning.raw value := by
  cases value <;> rfl

theorem integersFrom_eq (first : Int) (count : Nat) :
    ((List.range count).map fun (step : Nat) => Value.int (Int64.ofInt (first + step))) =
      Meaning.countFrom first count := by
  induction count generalizing first with
  | zero => rfl
  | succ count ih =>
      rw [List.range_succ_eq_map, List.map_cons, List.map_map, Meaning.countFrom, ← ih]
      simp only [Function.comp_def, Nat.cast_zero, Nat.cast_succ, add_zero, add_comm, add_left_comm]

theorem range_eq (limits : Limits) (first last : Int) :
    range limits first last = Meaning.integersOf limits first last := by
  unfold range Meaning.integersOf integersFrom
  dsimp only
  rw [integersFrom_eq]
  split
  · next long => rw [if_neg (Nat.not_le.mpr long)]
  · next short => rw [if_pos (Nat.not_lt.mp short)]

/-! ## Single instructions -/

theorem findSome?_filterMap {α β γ : Type} (choose : α → Option β) (find : β → Option γ)
    (list : List α) :
    (list.filterMap choose).findSome? find =
      list.findSome? fun entry => (choose entry).bind find := by
  induction list with
  | nil => rfl
  | cons first rest ih =>
      rw [List.filterMap_cons, List.findSome?_cons]
      cases choose first with
      | none => exact ih
      | some chosen => rw [List.findSome?_cons, ih, Option.bind_some]

theorem lookup_eq {pose : Pose} {world : World σ} {store : τ} (name : String) :
    (scene.state pose world store).lookup scene.environment.«variables» name =
      scene.context.lookup scene.surroundings.vars name := by
  unfold State.lookup Meaning.Context.lookup context
  dsimp only
  rw [findSome?_filterMap]
  rfl

theorem computes_symbol (name : String) :
    scene.Computes true [.fetchSymbol name]
      (pure (scene.context.lookup scene.surroundings.vars name)) :=
  computes_single fun _ pose world store here => by
    refine ⟨_, world, rfl, rfl, ?_⟩
    rw [here.step_change rfl, lookup_eq]
    rfl

theorem computes_loopState (slot : Nat) :
    scene.Computes true [.loopState slot] (Meaning.loopState slot) :=
  computes_single fun _ pose world store here => by
    have small := here.narrow (slot + 1) (by simp [Op.slots])
    have small' := here.narrow (slot + 2) (by simp [Op.slots])
    refine ⟨_, _, rfl, rfl, ?_⟩
    rw [here.step_change rfl, makeLoop, loopIndex, load_eq small, State.items, load_eq small']
    rfl

theorem answers_of_attempt {op : Op} {attempt : State τ → Except Fault (State τ)}
    {answer : Pose → Answer} (unchanging : change? scene.environment op = none)
    (attempts : attempt? scene.environment op = some attempt)
    (sound : ∀ state : State τ, ¬ BrokenBy state op)
    (attempted : ∀ pose (world : World σ) store, attempt (scene.state pose world store) = (do
      return (scene.state pose world store).yield (← answer pose))) :
    scene.Answers op answer := by
  intro kind pose world store here
  refine ⟨here.not_broken (sound _), ?_⟩
  rw [here.step_attempt unchanging attempts, attempted]
  cases answer pose <;> rfl

theorem answers_fetchField (name : String) :
    scene.Answers (.fetchField name) fun pose =>
      scene.surroundings.library.fetchField pose.accumulator name :=
  answers_of_attempt rfl rfl (fun _ => id) fun _ _ _ => rfl

theorem answers_filter (name : String) :
    scene.Answers (Generate.filterOp name) fun pose =>
      Meaning.applyFilter scene.surroundings.library name pose.accumulator := by
  by_cases html : name = "html"
  · obtain rfl := html
    exact fun _ _ _ _ here => ⟨here.not_broken id, here.step_change rfl⟩
  by_cases uri : name = "uri"
  · obtain rfl := uri
    exact fun _ _ _ _ here => ⟨here.not_broken id, here.step_change rfl⟩
  by_cases raw : name = "raw"
  · obtain rfl := raw
    intro kind pose world store here
    refine ⟨here.not_broken id, ?_⟩
    rw [here.step_change rfl, markRaw_eq]
    rfl
  have called (value : Value) : Meaning.applyFilter scene.surroundings.library name value =
      scene.surroundings.library.call name [value] := by
    simp only [Meaning.applyFilter]
  have op : Generate.filterOp name = .filter name := by
    simp only [Generate.filterOp]
  simp only [op, called]
  exact answers_of_attempt rfl rfl (fun _ => id) fun _ _ _ => rfl

theorem answers_unary (op : Node.UnaryOp) :
    scene.Answers (Generate.unaryOp op) fun pose =>
      .ok (Meaning.operateOne pose.accumulator op) := by
  cases op with
  | not => exact fun _ _ _ _ here => ⟨here.not_broken id, here.step_change rfl⟩
  | neg => exact fun _ _ _ _ here => ⟨here.not_broken id, here.step_change rfl⟩

theorem answers_range :
    scene.Answers .range fun pose =>
      Meaning.integersOf scene.surroundings.limits pose.second.toInteger
        pose.accumulator.toInteger := by
  simp only [← range_eq]
  exact answers_of_attempt rfl rfl (fun _ => id) fun _ _ _ => rfl

/-- An operator whose first operand may decide, and which yields the second one otherwise. -/
theorem Computes.decided {spared spared' : Bool} {left right : List Op}
    {first second : Action σ Value} {jump : Op} {op : Node.BinaryOp}
    (computes : scene.Computes spared' left first) (computes' : scene.Computes spared right second)
    (undecided : ∀ value, Meaning.decides value op = false →
      ∀ other, Meaning.operate value other op = .ok other)
    (unchanging : change? scene.environment jump = none)
    (attemptless : attempt? scene.environment jump = none)
    (jumps : ∀ state : State τ, transfer scene.environment state jump =
      jumpIf state (Meaning.decides state.accumulator op) (right.length + 1)) :
    scene.Computes false (left ++ [jump] ++ right) (do
      let value ← first
      if Meaning.decides value op then return value
      else
        let other ← second
        answered scene.context (Meaning.operate value other op)) := by
  have shortcut : scene.Computes false (left ++ [jump] ++ right) (do
      let value ← first
      if Meaning.decides value op then return value else second) :=
    computes.shortcut computes' fun _ _ _ _ _ here reached inside =>
      step_jumpIf (Meaning.decides · op) here unchanging attemptless jumps reached inside
  refine cast (congrArg _ (congrArg (first >>= ·) (funext fun value => ?_))) shortcut
  cases given : Meaning.decides value op with
  | true => rfl
  | false => simp [undecided value given, answered]

/-- Two operands are joined as their operator says. -/
theorem Computes.binary {spared spared' : Bool} {left right : List Op}
    {first second : Action σ Value} (op : Node.BinaryOp)
    (computes : scene.Computes spared' left first)
    (computes' : scene.Computes spared right second) :
    scene.Computes false (Generate.binary op left right spared) (do
      let value ← first
      if Meaning.decides value op then return value
      else
        let other ← second
        answered scene.context (Meaning.operate value other op)) := by
  cases op with
  | and =>
      refine computes.decided computes' ?_ rfl rfl fun _ => rfl
      intro value undecided other
      have holds : value.isTruthy = true := by simpa [Meaning.decides] using undecided
      simp [Meaning.operate, holds]
  | or =>
      refine computes.decided computes' ?_ rfl rfl fun _ => rfl
      intro value undecided other
      have fails : value.isTruthy = false := undecided
      simp [Meaning.operate, fails]
  | div =>
      exact computes.operate computes'
        (answers_of_attempt rfl rfl (fun _ => id) fun _ _ _ => rfl)
  | mod =>
      exact computes.operate computes'
        (answers_of_attempt rfl rfl (fun _ => id) fun _ _ _ => rfl)
  | _ =>
      exact computes.operate computes' fun _ _ _ _ here =>
        ⟨here.not_broken id, here.step_change rfl⟩

theorem Computes.unspared {spared : Bool} {code : List Op} {action : Action σ Value}
    (computes : scene.Computes spared code action) : scene.Computes false code action := by
  intro kind deep pose world store stop laid related
  refine (computes deep laid related).mono ?_
  rintro value after last ⟨second, store, rfl, related, _⟩
  exact ⟨second, store, rfl, related, nofun⟩

/-! ## All expressions -/

variable {render? : Option (Renderer σ)} {template : Template}

mutual

/-- The code of an expression computes its value. -/
theorem computes_expression (ready : scene.Ready render? template) :
    ∀ {node : Node} {code : List Op}, Generate.expression node = .ok code →
      (∀ inner ∈ node.walk, inner.Sound template.Declares) →
      scene.Computes (Generate.sparesSecond node) code
        (Meaning.expression scene.surroundings render? scene.context node)
  | .int .., _, rfl, _ | .uint .., _, rfl, _ | .string .., _, rfl, _ | .bool .., _, rfl, _ =>
      computes_single fun _ _ world _ here => ⟨_, world, rfl, rfl, step_literal here⟩
  | .float _ x, _, rfl, _ => computes_single fun _ _ world _ here => by
      refine ⟨_, world, rfl, rfl, ?_⟩
      rw [step_literal here, ofLiteral, Float.ofBits_toBits]
  | .nil _, _, rfl, _ =>
      computes_single fun _ _ world _ here => ⟨_, world, rfl, rfl, step_loadNil here⟩
  | .localVar .., _, rfl, _ =>
      computes_single fun _ _ world _ here => ⟨_, world, rfl, rfl, step_loadLocal here⟩
  | .symbol _ name, _, rfl, _ => computes_symbol name
  | .loopVar _ slot, _, rfl, _ => computes_loopState slot
  | .field _ container name, _, generated, sound => by
      simp only [Generate.expression, bind_eq_ok] at generated
      obtain ⟨first, here, ⟨⟩⟩ := generated
      simp only [Node.walk, List.forall_mem_cons] at sound
      exact (computes_expression ready here sound.2).then (answers_fetchField name)
  | .index _ container position, _, generated, sound => by
      simp only [Generate.expression, bind_eq_ok] at generated
      obtain ⟨first, here, second, there, ⟨⟩⟩ := generated
      simp only [Node.walk, List.forall_mem_cons, List.forall_mem_append] at sound
      exact (computes_expression ready here sound.2.1).index
        (computes_expression ready there sound.2.2)
  | .methodCall _ invocant name arguments, _, generated, sound => by
      simp only [Generate.expression, bind_eq_ok] at generated
      obtain ⟨first, here, rest, further, ⟨⟩⟩ := generated
      simp only [Node.walk, List.forall_mem_cons, List.forall_mem_append] at sound
      exact (pushes_each ready further sound.2.2).callMethod
        (computes_expression ready here sound.2.1) name
  | .functionCall _ name arguments, _, generated, sound => by
      simp only [Generate.expression, bind_eq_ok] at generated
      obtain ⟨rest, further, ⟨⟩⟩ := generated
      simp only [Node.walk, List.forall_mem_cons] at sound
      exact (pushes_each ready further sound.2).collect rfl rfl fun _ broken => broken
  | .macroCall _ name arguments, _, generated, sound => by
      simp only [Generate.expression, bind_eq_ok] at generated
      obtain ⟨rest, further, ⟨⟩⟩ := generated
      simp only [Node.walk, List.forall_mem_cons] at sound
      exact (pushes_each ready further sound.2).callMacro ready.serves ready.fits sound.1
  | .filter _ operand name, _, generated, sound => by
      simp only [Generate.expression, bind_eq_ok] at generated
      obtain ⟨first, here, ⟨⟩⟩ := generated
      simp only [Node.walk, List.forall_mem_cons] at sound
      exact ((computes_expression ready here sound.2).then (answers_filter name)).unspared
  | .unary _ op operand, _, generated, sound => by
      simp only [Generate.expression, bind_eq_ok] at generated
      obtain ⟨first, here, ⟨⟩⟩ := generated
      simp only [Node.walk, List.forall_mem_cons] at sound
      exact (@Computes.then _ _ _ _ _ _ _ (fun value => .ok (Meaning.operateOne value op))
        (computes_expression ready here sound.2) (answers_unary op)).unspared
  | .binary _ op left right, _, generated, sound => by
      simp only [Generate.expression, bind_eq_ok] at generated
      obtain ⟨first, here, second, there, ⟨⟩⟩ := generated
      simp only [Node.walk, List.forall_mem_cons, List.forall_mem_append] at sound
      exact (computes_expression ready here sound.2.1).binary op
        (computes_expression ready there sound.2.2)
  | .assign _ _ slot value, _, generated, sound => by
      simp only [Generate.expression, bind_eq_ok] at generated
      obtain ⟨first, here, ⟨⟩⟩ := generated
      simp only [Node.walk, List.forall_mem_cons] at sound
      exact ((computes_expression ready here sound.2).assign slot).unspared
  | .list _ items, _, generated, sound => by
      simp only [Generate.expression, bind_eq_ok] at generated
      obtain ⟨rest, further, ⟨⟩⟩ := generated
      simp only [Node.walk, List.forall_mem_cons] at sound
      exact @Pushes.collect _ _ _ _ _ .makeList (fun items => .ok (.list items))
        (pushes_each ready further sound.2) rfl rfl fun _ broken => broken
  | .range _ first last, _, generated, sound => by
      simp only [Generate.expression, bind_eq_ok] at generated
      obtain ⟨low, here, high, there, ⟨⟩⟩ := generated
      simp only [Node.walk, List.forall_mem_cons, List.forall_mem_append] at sound
      exact (computes_expression ready here sound.2.1).operate
        (computes_expression ready there sound.2.2) answers_range

/-- The code of operands pushes their values. -/
theorem pushes_each (ready : scene.Ready render? template) :
    ∀ {nodes : List Node} {code : List Op}, Generate.pushed nodes = .ok code →
      (∀ inner ∈ Node.walkAll nodes, inner.Sound template.Declares) →
      scene.Pushes code (Meaning.each scene.surroundings render? scene.context nodes)
  | [], _, rfl, _ => pushes_nil
  | first :: rest, _, generated, sound => by
      simp only [Generate.pushed, bind_eq_ok] at generated
      obtain ⟨code, here, more, further, ⟨⟩⟩ := generated
      simp only [Node.walkAll, List.forall_mem_append] at sound
      exact (computes_expression ready here sound.1).pushes (pushes_each ready further sound.2)

theorem pushes_eachBound (ready : scene.Ready render? template) :
    ∀ {bound : List (String × Node)} {code : List Op}, Generate.pushedBindings bound = .ok code →
      (∀ inner ∈ Node.walkBindings bound, inner.Sound template.Declares) →
      scene.Pushes code
        (inRow <$> Meaning.eachBound scene.surroundings render? scene.context bound)
  | [], _, rfl, _ => pushes_nil
  | (name, first) :: rest, _, generated, sound => by
      simp only [Generate.pushedBindings, bind_eq_ok] at generated
      obtain ⟨code, here, more, further, ⟨⟩⟩ := generated
      simp only [Node.walkBindings, List.forall_mem_append] at sound
      exact (pushes_eachBound ready further sound.2).bound (computes_expression ready here sound.1)
        name

end

/-- The code of bindings makes the map that is passed. -/
theorem computes_bindings (ready : scene.Ready render? template) {bound : List (String × Node)}
    {code : List Op} (generated : Generate.bindings bound = .ok code)
    (sound : ∀ inner ∈ Node.walkBindings bound, inner.Sound template.Declares) :
    ∃ spared, scene.Computes spared code
      (ofPassed <$> Meaning.passed scene.surroundings render? scene.context bound) := by
  unfold Generate.bindings at generated
  unfold Meaning.passed
  split at generated
  · next empty =>
      cases generated
      rw [if_pos empty]
      exact ⟨true, computes_unbound⟩
  · next some =>
      simp only [bind_eq_ok] at generated
      obtain ⟨pairs, further, ⟨⟩⟩ := generated
      rw [if_neg some]
      have made := (pushes_eachBound ready further sound).makeMap
      exact ⟨false, by simpa using made⟩

end Stencil.Machine.Scene

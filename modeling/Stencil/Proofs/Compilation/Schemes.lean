import Stencil.Proofs.Compilation.Composition
import Stencil.Proofs.Machine.Instructions

/-!
# Code that computes

What it means for a run of instructions to compute the value of an action in a scene, and how larger
runs compute what their parts do: one statement for each scheme by which code is put together.
-/

namespace Stencil.Machine.Scene

open Meaning (Action World answered)

variable {σ τ : Type} (scene : Scene σ τ)

/-- States in what is called from the scene are of a kind. -/
def Deep (kind : State τ → Prop) : Prop :=
  ∀ state, scene.callers.length < state.callers.length → kind state

/-- Wherever the code stands, it brings the value of the action into the accumulator and leaves the
stacks as they were; the second register too, if that is spared. -/
def Computes (spared : Bool) (code : List Op) (action : Action σ Value) : Prop :=
  ∀ ⦃kind : State τ → Prop⦄, scene.Deep kind → ∀ ⦃pose world store stop⦄,
    scene.Laid kind pose.ip code stop → scene.related world.store store →
      scene.Follows scene.rounds kind pose.sink (scene.state pose world store) (action world)
        fun value after last => ∃ second store',
          last = scene.state { pose with ip := stop, accumulator := value, second } after store' ∧
          scene.related after.store store' ∧ (spared = true → second = pose.second)

/-- Wherever the code stands, it pushes the values of the action in their order. -/
def Pushes (code : List Op) (action : Action σ (List Value)) : Prop :=
  ∀ ⦃kind : State τ → Prop⦄, scene.Deep kind → ∀ ⦃pose world store stop⦄,
    scene.Laid kind pose.ip code stop → scene.related world.store store →
      scene.Follows scene.rounds kind pose.sink (scene.state pose world store) (action world)
        fun values after last => ∃ accumulator second store',
          last = scene.state { pose with
            operands := values.reverse ++ pose.operands, ip := stop, accumulator, second }
            after store' ∧
          scene.related after.store store'

/-- Wherever the code stands, it has the effect of the action and leaves the stacks as they were. -/
def Performs (code : List Op) (action : Action σ Unit) : Prop :=
  ∀ ⦃kind : State τ → Prop⦄, scene.Deep kind → ∀ ⦃pose world store stop⦄,
    scene.Laid kind pose.ip code stop → scene.related world.store store →
      scene.Follows scene.rounds kind pose.sink (scene.state pose world store) (action world)
        fun _ after last => ∃ accumulator second store',
          last = scene.state { pose with ip := stop, accumulator, second } after store' ∧
          scene.related after.store store'

variable {scene}

/-- What an instruction does that computes an answer from the registers. -/
def Answers (scene : Scene σ τ) (op : Op) (answer : Pose → Answer) : Prop :=
  ∀ ⦃kind pose⦄ ⦃world : World σ⦄ ⦃store⦄, scene.At kind pose.ip op →
    ¬ Broken (scene.state pose world store) ∧
    step scene.environment (scene.state pose world store) =
      match answer pose with
      | .ok value =>
          .running (scene.state { pose with ip := pose.ip + 1, accumulator := value } world store)
      | .error fault => fail (scene.state pose world store) fault

theorem Follows.here {bound : Nat} {kind : State τ → Prop} {sink : Sink} {op : Op} {pose : Pose}
    {world : World σ} {store : τ} {next : State τ} {α : Type}
    {result : Option (Except Failure α × World σ)} {arrived : α → World σ → State τ → Prop}
    (here : scene.At kind pose.ip op)
    (stepped : Machine.step scene.environment (scene.state pose world store) = .running next)
    (rest : scene.Follows bound kind sink next result arrived) :
    scene.Follows bound kind sink (scene.state pose world store) result arrived :=
  .step (here.inside pose world store rfl) stepped rest

/-- An answering instruction is followed by its answer. -/
theorem Answers.follows {op : Op} {answer : Pose → Answer} (answers : scene.Answers op answer)
    {bound : Nat} {kind : State τ → Prop} {sink : Sink} {pose : Pose} {world : World σ} {store : τ}
    {arrived : Value → World σ → State τ → Prop} (here : scene.At kind pose.ip op)
    (sunk : pose.sink = sink) (related : scene.related world.store store)
    (arrives : ∀ value, arrived value world
      (scene.state { pose with ip := pose.ip + 1, accumulator := value } world store)) :
    scene.Follows bound kind sink (scene.state pose world store)
      (answered scene.context (answer pose) world) arrived := by
  obtain rfl := sunk
  obtain ⟨sound, stepped⟩ := @answers kind pose world store here
  cases given : answer pose with
  | ok value =>
      rw [given] at stepped
      exact .here here stepped (.done (arrives value))
  | error fault =>
      rw [given] at stepped
      exact .fail (here.inside pose world store rfl) sound stepped rfl rfl rfl related

/-! ## Values -/

/-- A single instruction that computes a value whatever the pose. -/
theorem computes_single {op : Op} {action : Action σ Value}
    (single : ∀ ⦃kind pose⦄ ⦃world : World σ⦄ ⦃store⦄, scene.At kind pose.ip op →
      ∃ value after, action world = some (.ok value, after) ∧ after.store = world.store ∧
        step scene.environment (scene.state pose world store) = .running
          (scene.state { pose with ip := pose.ip + 1, accumulator := value } after store)) :
    scene.Computes true [op] action := by
  intro kind _ pose world store stop laid related
  obtain ⟨here, rfl, _⟩ := laid
  obtain ⟨value, after, acted, kept, stepped⟩ := @single kind pose world store here
  rw [acted]
  refine .here here stepped (.done ⟨pose.second, store, rfl, ?_, fun _ => rfl⟩)
  rw [kept]
  exact related

/-- An operation of the accumulator alone. -/
theorem Computes.then {spared : Bool} {code : List Op} {action : Action σ Value} {op : Op}
    {answer : Value → Answer} (computes : scene.Computes spared code action)
    (answers : scene.Answers op fun pose => answer pose.accumulator) :
    scene.Computes spared (code ++ [op]) (do
      let value ← action
      answered scene.context (answer value)) := by
  intro kind deep pose world store stop whole related
  obtain ⟨_, laid, here, rfl, _⟩ := laid_append.mp whole
  refine (computes deep laid related).bind ?_
  rintro value after _ ⟨second, store, rfl, related, same⟩
  exact answers.follows here rfl related fun value => ⟨second, store, rfl, related, same⟩

/-- An operation of both registers. -/
theorem Computes.operate {spared other : Bool} {left right : List Op}
    {first second : Action σ Value} {op : Op} {answer : Value → Value → Answer}
    (computes : scene.Computes other left first)
    (computes' : scene.Computes spared right second)
    (answers : scene.Answers op fun pose => answer pose.second pose.accumulator) :
    scene.Computes false (Generate.operands left right spared ++ [op]) (do
      let low ← first
      let high ← second
      answered scene.context (answer low high)) := by
  intro kind deep pose world store stop whole related
  obtain ⟨_, both, here, rfl, _⟩ := laid_append.mp whole
  cases spared with
  | true =>
      obtain ⟨_, front, laid'⟩ := laid_append.mp both
      obtain ⟨_, laid, move, rfl, _⟩ := laid_append.mp front
      refine (computes deep laid related).bind ?_
      rintro low after _ ⟨_, store, rfl, related, _⟩
      refine .here move (step_moveToSecond move) ?_
      refine (computes' deep laid' related).bind ?_
      rintro high after _ ⟨_, store, rfl, related, same⟩
      obtain rfl := same rfl
      exact answers.follows here rfl related fun value => ⟨_, store, rfl, related, nofun⟩
  | false =>
      obtain ⟨_, inner, popTo, rfl, _⟩ := laid_append.mp both
      obtain ⟨_, front, laid'⟩ := laid_append.mp inner
      obtain ⟨_, laid, push, rfl, _⟩ := laid_append.mp front
      refine (computes deep laid related).bind ?_
      rintro low after _ ⟨_, store, rfl, related, _⟩
      refine .here push (step_push push) ?_
      refine (computes' deep laid' related).bind ?_
      rintro high after _ ⟨_, store, rfl, related, _⟩
      refine .here popTo (step_popToSecond popTo rfl) ?_
      exact answers.follows here rfl related fun value => ⟨low, store, rfl, related, nofun⟩

theorem Computes.index {spared spared' : Bool} {left right : List Op}
    {first second : Action σ Value}
    (computes : scene.Computes spared left first)
    (computes' : scene.Computes spared' right second) :
    scene.Computes false (left ++ [Op.push] ++ right ++ [Op.moveToSecond, .pop, .fetchElement]) (do
      let container ← first
      let place ← second
      return scene.surroundings.library.fetchElement container place) := by
  intro kind deep pose world store stop whole related
  obtain ⟨_, both, move, pop, fetch, rfl, _⟩ := laid_append.mp whole
  obtain ⟨_, front, laid'⟩ := laid_append.mp both
  obtain ⟨_, laid, push, rfl, _⟩ := laid_append.mp front
  refine (computes deep laid related).bind ?_
  rintro container after _ ⟨_, store, rfl, related, _⟩
  refine .here push (step_push push) ?_
  refine (computes' deep laid' related).bind ?_
  rintro place after _ ⟨_, store, rfl, related, _⟩
  refine .here move (step_moveToSecond move) ?_
  refine .here pop (step_pop pop rfl) ?_
  exact .here fetch (fetch.step_change rfl) (.done ⟨place, store, rfl, related, nofun⟩)

/-- A value that decides is kept, and the code for the other one passed over. -/
theorem Computes.shortcut {spared spared' : Bool} {left right : List Op}
    {first second : Action σ Value} {op : Op} {decides : Value → Bool}
    (computes : scene.Computes spared left first)
    (computes' : scene.Computes spared' right second)
    (jumps : ∀ ⦃kind pose⦄ ⦃world : World σ⦄ ⦃store⦄ ⦃target : Nat⦄, scene.At kind pose.ip op →
      (pose.ip : Int) + (right.length + 1) = target → target < scene.activation.ops.size →
      step scene.environment (scene.state pose world store) = .running (scene.state
        { pose with ip := if decides pose.accumulator then target else pose.ip + 1 }
        world store)) :
    scene.Computes false (left ++ [op] ++ right) (do
      let value ← first
      if decides value then return value else second) := by
  intro kind deep pose world store stop whole related
  obtain ⟨_, front, laid'⟩ := laid_append.mp whole
  obtain ⟨_, laid, here, rfl, _⟩ := laid_append.mp front
  refine (computes deep laid related).bind ?_
  rintro value after _ ⟨_, store, rfl, related, _⟩
  have reached := laid'.stop_eq
  refine .here here (jumps here (show _ = (stop : Int) by dsimp only; omega) laid'.lt_size) ?_
  dsimp only
  cases decides value with
  | true => exact .done ⟨_, store, rfl, related, nofun⟩
  | false =>
      refine (computes' deep laid' related).mono ?_
      rintro value after last ⟨second, store, rfl, related, _⟩
      exact ⟨second, store, rfl, related, nofun⟩

theorem Computes.assign {spared : Bool} {code : List Op} {action : Action σ Value}
    (computes : scene.Computes spared code action) (slot : Nat) :
    scene.Computes spared (code ++ [Op.saveLocal slot]) (do
      let value ← action
      Meaning.save slot value
      return value) := by
  intro kind deep pose world store stop whole related
  obtain ⟨_, laid, here, rfl, _⟩ := laid_append.mp whole
  refine (computes deep laid related).bind ?_
  rintro value after _ ⟨second, store, rfl, related, same⟩
  exact .here here (step_saveLocal here) (.done ⟨second, store, rfl, related, same⟩)

/-! ## Operands in a row -/

theorem pushes_nil : scene.Pushes [] (pure []) := by
  intro kind _ pose world store stop laid related
  obtain ⟨rfl, _⟩ := laid
  exact .done ⟨_, _, store, rfl, related⟩

theorem Computes.pushes {spared : Bool} {code rest : List Op} {action : Action σ Value}
    {others : Action σ (List Value)} (computes : scene.Computes spared code action)
    (pushes : scene.Pushes rest others) :
    scene.Pushes (code ++ [Op.push] ++ rest) (do
      let value ← action
      return value :: (← others)) := by
  intro kind deep pose world store stop whole related
  obtain ⟨_, front, laid'⟩ := laid_append.mp whole
  obtain ⟨_, laid, push, rfl, _⟩ := laid_append.mp front
  refine (computes deep laid related).bind ?_
  rintro value after _ ⟨_, store, rfl, related, _⟩
  refine .here push (step_push push) ?_
  refine (pushes deep laid' related).bind ?_
  rintro values after _ ⟨accumulator, second, store, rfl, related⟩
  refine .done ⟨accumulator, second, store, ?_, related⟩
  rw [List.reverse_cons, List.append_assoc]
  rfl

/-- The operands above a mark, the lowest first. -/
theorem popMarked_eq {pose : Pose} {world : World σ} {store : τ} {values operands : List Value}
    {marks : List Nat} (stacked : pose.operands = values.reverse ++ operands)
    (marked : pose.marks = operands.length :: marks) :
    (scene.state pose world store).popMarked =
      .ok (values, scene.state { pose with operands, marks } world store) := by
  obtain ⟨sink, _, _, ip, accumulator, second⟩ := pose
  obtain rfl := stacked
  obtain rfl := marked
  have height : (values.reverse ++ operands).length - operands.length = values.reverse.length := by
    rw [List.length_append, Nat.add_sub_cancel]
  have above : ¬ (values.reverse ++ operands).length < operands.length := by
    rw [List.length_append]
    omega
  simp only [State.popMarked, state, if_neg above, height, List.take_left, List.drop_left,
    List.reverse_reverse]

theorem not_unmarked {pose : Pose} {world : World σ} {store : τ} {values operands : List Value}
    {marks : List Nat} (stacked : pose.operands = values.reverse ++ operands)
    (marked : pose.marks = operands.length :: marks) :
    ¬ Unmarked (scene.state pose world store) := by
  obtain ⟨sink, _, _, ip, accumulator, second⟩ := pose
  obtain rfl := stacked
  obtain rfl := marked
  show ¬ (values.reverse ++ operands).length < operands.length
  rw [List.length_append]
  omega

theorem collect_eq {pose : Pose} {world : World σ} {store : τ} {values operands : List Value}
    {marks : List Nat} (stacked : pose.operands = values.reverse ++ operands)
    (marked : pose.marks = operands.length :: marks) (make : List Value → Answer) :
    collect (scene.state pose world store) make =
      match make values with
      | .ok value => .ok (scene.state
          { pose with ip := pose.ip + 1, operands, marks, accumulator := value } world store)
      | .error fault => .error fault := by
  rw [collect, popMarked_eq stacked marked]
  show (make values >>= fun value => _) = _
  cases make values with
  | ok value => rfl
  | error fault => rfl

/-- An instruction that makes something of the operands above the mark. -/
theorem follows_collect {bound : Nat} {kind : State τ → Prop} {sink : Sink} {pose : Pose}
    {world : World σ} {store : τ} {arrived : Value → World σ → State τ → Prop} {op : Op}
    {make : List Value → Answer} {values operands : List Value} {marks : List Nat}
    (here : scene.At kind pose.ip op) (unchanging : change? scene.environment op = none)
    (attempts : attempt? scene.environment op = some (collect · make))
    (sound : ¬ BrokenBy (scene.state pose world store) op) (sunk : pose.sink = sink)
    (stacked : pose.operands = values.reverse ++ operands)
    (marked : pose.marks = operands.length :: marks) (related : scene.related world.store store)
    (arrives : ∀ value, arrived value world (scene.state
      { pose with ip := pose.ip + 1, operands, marks, accumulator := value } world store)) :
    scene.Follows bound kind sink (scene.state pose world store)
      (answered scene.context (make values) world) arrived := by
  obtain rfl := sunk
  have stepped := @At.step_attempt _ _ _ _ _ world store _ _ here unchanging attempts
  rw [collect_eq stacked marked] at stepped
  cases given : make values with
  | ok value =>
      rw [given] at stepped
      exact .here here stepped (.done (arrives value))
  | error fault =>
      rw [given] at stepped
      exact .fail (here.inside pose world store rfl) (here.not_broken sound) stepped rfl rfl rfl
        related

/-- Pushing operands after a mark and making something of them. -/
theorem Pushes.collect {code : List Op} {action : Action σ (List Value)} {op : Op}
    {make : List Value → Answer} (pushes : scene.Pushes code action)
    (unchanging : change? scene.environment op = none)
    (attempts : attempt? scene.environment op = some (Machine.collect · make))
    (sound : ∀ state : State τ, BrokenBy state op → Unmarked state) :
    scene.Computes false ([Op.pushMark] ++ code ++ [op]) (do
      let values ← action
      answered scene.context (make values)) := by
  intro kind deep pose world store stop whole related
  obtain ⟨_, front, here, rfl, _⟩ := laid_append.mp whole
  obtain ⟨mark, laid⟩ := laid_cons.mp front
  refine .here mark (step_pushMark mark) ?_
  refine (pushes deep laid related).bind ?_
  rintro values after _ ⟨_, second, store, rfl, related⟩
  exact follows_collect here unchanging attempts
    (fun broken => not_unmarked rfl rfl (sound _ broken)) rfl rfl rfl related
    fun value => ⟨second, store, rfl, related, nofun⟩

theorem not_brokenBy_callMethod {pose : Pose} {world : World σ} {store : τ} {value : Value}
    {values operands : List Value} {marks : List Nat} {name : String}
    (stacked : pose.operands = (value :: values).reverse ++ operands)
    (marked : pose.marks = operands.length :: marks) :
    ¬ BrokenBy (scene.state pose world store) (.callMethod name) := by
  rintro (unmarked | level)
  · exact not_unmarked stacked marked unmarked
  · have height : pose.marks.head? = some pose.operands.length := level
    rw [marked, stacked, List.length_append, List.length_reverse, List.length_cons] at height
    injection height with height
    omega

/-- A method is called on the first of the operands, of which there is one. -/
theorem Pushes.callMethod {spared : Bool} {code rest : List Op} {action : Action σ Value}
    {others : Action σ (List Value)} (pushes : scene.Pushes rest others)
    (computes : scene.Computes spared code action) (name : String) :
    scene.Computes false ([Op.pushMark] ++ code ++ [Op.push] ++ rest ++ [Op.callMethod name]) (do
      let value ← action
      let values ← others
      answered scene.context (scene.surroundings.library.callMethod value name values)) := by
  intro kind deep pose world store stop whole related
  obtain ⟨_, both, here, rfl, _⟩ := laid_append.mp whole
  obtain ⟨_, front, laid'⟩ := laid_append.mp both
  obtain ⟨_, marked, push, rfl, _⟩ := laid_append.mp front
  obtain ⟨mark, laid⟩ := laid_cons.mp marked
  refine .here mark (step_pushMark mark) ?_
  refine (computes deep laid related).bind ?_
  rintro value after _ ⟨_, store, rfl, related, _⟩
  refine .here push (step_push push) ?_
  refine (pushes deep laid' related).bind ?_
  rintro values after _ ⟨_, second, store, rfl, related⟩
  have stacked : values.reverse ++ value :: pose.operands =
      (value :: values).reverse ++ pose.operands := by
    rw [List.reverse_cons, List.append_assoc]
    rfl
  have invoked : scene.surroundings.library.callMethod value name values =
      invoke scene.surroundings.library name (value :: values) := rfl
  rw [invoked]
  exact follows_collect here rfl rfl (not_brokenBy_callMethod stacked rfl) rfl stacked rfl related
    fun value => ⟨second, store, rfl, related, nofun⟩

/-! ## Bindings -/

/-- Names and values in a row, as they are pushed. -/
def inRow : List (String × Value) → List Value
  | [] => []
  | (name, value) :: rest => .text name :: value :: inRow rest

theorem pairUp_inRow (entries : List (String × Value)) : pairUp (inRow entries) = entries := by
  induction entries with
  | nil => rfl
  | cons entry rest ih =>
      obtain ⟨name, value⟩ := entry
      show (name, value) :: pairUp (inRow rest) = _
      rw [ih]

theorem Pushes.bound {spared : Bool} {code rest : List Op} {action : Action σ Value}
    {others : Action σ (List (String × Value))} (pushes : scene.Pushes rest (inRow <$> others))
    (computes : scene.Computes spared code action) (name : String) :
    scene.Pushes ([Op.literal (.text name), .push] ++ code ++ [Op.push] ++ rest) (inRow <$> (do
      let value ← action
      return (name, value) :: (← others))) := by
  have named : scene.Computes true [.literal (.text name)] (pure (.text name)) :=
    computes_single fun _ _ world _ here => ⟨_, world, rfl, rfl, step_literal here⟩
  have both := named.pushes (computes.pushes pushes)
  simpa [inRow] using both

/-- The value that stands for bindings. -/
def ofPassed : Option (Dictionary Value) → Value
  | none => .nil
  | some entries => .map entries

theorem bindingsOf_ofPassed (bindings : Option (Dictionary Value)) :
    bindingsOf (ofPassed bindings) = bindings := by
  cases bindings <;> rfl

theorem computes_unbound : scene.Computes true [.loadNil] (ofPassed <$> pure none) :=
  computes_single fun _ _ world _ here => ⟨_, world, rfl, rfl, step_loadNil here⟩

theorem Pushes.makeMap {code : List Op} {action : Action σ (List (String × Value))}
    (pushes : scene.Pushes code (inRow <$> action)) :
    scene.Computes false ([Op.pushMark] ++ code ++ [Op.makeMap])
      (ofPassed <$> (some ∘ Dictionary.ofList) <$> action) := by
  have collected := @Pushes.collect _ _ _ _ _ .makeMap _ pushes rfl rfl fun _ broken => broken
  simpa [answered, pairUp_inRow, ofPassed] using collected

/-- The name of a template and the bindings for it come into the registers. -/
theorem Computes.target {spared spared' : Bool} {code map : List Op} {first : Action σ Value}
    {second : Action σ (Option (Dictionary Value))} {α : Type}
    {further : Value → Option (Dictionary Value) → Action σ α} {kind : State τ → Prop}
    {pose : Pose} {world : World σ} {store : τ} {stop : Nat}
    {arrived : α → World σ → State τ → Prop}
    (computes : scene.Computes spared code first)
    (computes' : scene.Computes spared' map (ofPassed <$> second)) (deep : scene.Deep kind)
    (whole : scene.Laid kind pose.ip (code ++ [Op.push] ++ map ++ [Op.moveToSecond, .pop]) stop)
    (related : scene.related world.store store)
    (continued : ∀ name bindings after store', scene.related after.store store' →
      scene.Follows scene.rounds kind pose.sink
        (scene.state { pose with ip := stop, accumulator := name, second := ofPassed bindings }
          after store')
        (further name bindings after) arrived) :
    scene.Follows scene.rounds kind pose.sink (scene.state pose world store)
      ((do
        let name ← first
        let bindings ← second
        further name bindings) world) arrived := by
  obtain ⟨_, both, move, pop, rfl, _⟩ := laid_append.mp whole
  obtain ⟨_, front, laid'⟩ := laid_append.mp both
  obtain ⟨_, laid, push, rfl, _⟩ := laid_append.mp front
  refine (computes deep laid related).bind ?_
  rintro name after _ ⟨_, store, rfl, related, _⟩
  refine .here push (step_push push) ?_
  refine (computes' deep laid' related).unmap.bind ?_
  rintro bindings after _ ⟨_, store, rfl, related, _⟩
  refine .here move (step_moveToSecond move) ?_
  refine .here pop (step_pop pop rfl) ?_
  exact continued name bindings after store related

end Stencil.Machine.Scene

import Stencil.Proofs.Compilation.Undated
import Stencil.Proofs.Machine.Moves

/-!
# Runs without moments and stores

The machine sees neither when code was generated nor what its loader keeps. A run is the image of a
run that is without both, as long as the loader finds the same code in every state that it can be
in.
-/

namespace Stencil.Machine

variable {σ : Type}

def Activation.undated (activation : Activation) : Activation :=
  { activation with code := activation.code.undated }

namespace State

/-- A state without the moments of its code, and without the state of the loader. -/
def bare (state : State σ) : State Unit where
  accumulator := state.accumulator
  second := state.second
  operands := state.operands
  marks := state.marks
  slots := state.slots
  current := state.current.undated
  callers := state.callers.map Activation.undated
  captures := state.captures
  depth := state.depth
  made := state.made
  output := state.output
  warnings := state.warnings
  store := ()

variable (state : State σ)

@[simp] theorem bare_accumulator : state.bare.accumulator = state.accumulator := rfl

@[simp] theorem bare_second : state.bare.second = state.second := rfl

@[simp] theorem bare_captures : state.bare.captures = state.captures := rfl

@[simp] theorem bare_depth : state.bare.depth = state.depth := rfl

@[simp] theorem bare_callers : state.bare.callers = state.callers.map Activation.undated := rfl

@[simp] theorem bare_origin : state.bare.current.origin = state.current.origin := rfl

@[simp] theorem bare_ops : state.bare.current.ops = state.current.ops := rfl

@[simp] theorem bare_ip : state.bare.current.ip = state.current.ip := rfl

@[simp] theorem bare_macros : state.bare.current.code.macros = state.current.code.macros := rfl

@[simp] theorem bare_load (slot : Nat) : state.bare.load slot = state.load slot := rfl

@[simp] theorem bare_items (slot : Nat) : state.bare.items slot = state.items slot := rfl

theorem bare_trace : state.bare.trace = state.trace := by
  unfold trace bare
  rw [List.map_cons, List.map_cons, List.map_map]
  rfl

/-- A state that has been unwound is unwound without moments too. -/
theorem bare_unwoundBy (callers : List Activation) :
    (state.unwoundBy callers).bare = state.bare.unwoundBy (callers.map Activation.undated) := by
  induction callers generalizing state with
  | nil => rfl
  | cons caller callers ih => exact ih (state.giveBack caller callers)

theorem bare_write (text : String) : (state.write text).bare = state.bare.write text := by
  obtain ⟨_, _, _, _, _, _, _, captures, _, _, _, _, _⟩ := state
  cases captures <;> rfl

theorem bare_lookup (vars : Dictionary Value) (name : String) :
    state.bare.lookup vars name = state.lookup vars name := by
  unfold lookup bare
  rw [List.findSome?_cons, List.findSome?_cons, List.findSome?_map]
  rfl

theorem bare_pop : state.bare.pop = state.pop.map fun (value, next) => (value, next.bare) := by
  obtain ⟨_, _, operands, _, _, _, _, _, _, _, _, _, _⟩ := state
  cases operands <;> rfl

theorem bare_popMarked :
    state.bare.popMarked = state.popMarked.map fun (values, next) => (values, next.bare) := by
  obtain ⟨_, _, operands, marks, _, _, _, _, _, _, _, _, _⟩ := state
  cases marks with
  | nil => rfl
  | cons mark marks =>
      unfold popMarked bare
      dsimp only
      split <;> rfl

end State

namespace Outcome

def bare : Outcome σ → Outcome Unit
  | running state => .running state.bare
  | finished state => .finished state.bare
  | failed failure state => .failed failure state.bare

theorem bare_report (outcome : Outcome σ) : outcome.bare.report = outcome.report := by
  cases outcome <;> rfl

end Outcome

/-- An environment whose loader has no state. -/
def Environment.bare (environment : Environment σ) (load : String → Except Failure Code) :
    Environment Unit where
  library := environment.library
  limits := environment.limits
  loader := some fun name store => (load name, store)
  «variables» := environment.«variables»

variable {environment : Environment σ} {load : String → Except Failure Code}

/-! ## Instructions that go on -/

theorem bare_printAccumulator (state : State σ) :
    (printAccumulator state).bare = printAccumulator state.bare := by
  unfold printAccumulator
  rw [state.bare_accumulator]
  cases state.accumulator with
  | nil => rfl
  | raw s => exact state.bare_write s
  | _ => exact state.bare_write _

theorem bare_guardLoop (state : State σ) (slot max : Nat) :
    (guardLoop state slot max).bare = guardLoop state.bare slot max := by
  unfold guardLoop
  rw [state.bare_load]
  dsimp only
  split
  · rfl
  · rfl

theorem bare_change (load : String → Except Failure Code) {op : Op} {change : State σ → State σ}
    (changes : change? environment op = some change) :
    ∃ change', change? (environment.bare load) op = some change' ∧
      ∀ state, (change state).bare = change' state.bare := by
  cases op with
  | fetchSymbol name =>
      cases changes
      refine ⟨_, rfl, fun state => ?_⟩
      dsimp only
      rw [state.bare_lookup]
      rfl
  | print =>
      cases changes
      exact ⟨_, rfl, fun state => congrArg State.advance (bare_printAccumulator state)⟩
  | printRaw =>
      cases changes
      exact ⟨_, rfl, fun state => congrArg State.advance (state.bare_write _)⟩
  | printText text =>
      cases changes
      exact ⟨_, rfl, fun state => congrArg State.advance (state.bare_write text)⟩
  | loopGuard slot max =>
      cases changes
      exact ⟨_, rfl, fun state => bare_guardLoop state slot max⟩
  | _ => cases changes <;> exact ⟨_, rfl, fun state => rfl⟩

theorem change?_bare_eq_none {op : Op} (unchanging : change? environment op = none) :
    change? (environment.bare load) op = none := by
  cases op with
  | _ => first | rfl | cases unchanging

/-! ## Instructions that go on unless they fail -/

theorem bare_yield (state : State σ) (answer : Answer) :
    (do return state.bare.yield (← answer)) =
      (do return state.yield (← answer) : Except Fault (State σ)).map State.bare := by
  cases answer <;> rfl

theorem bare_collect (state : State σ) (make : List Value → Answer) :
    collect state.bare make = (collect state make).map State.bare := by
  unfold collect
  rw [state.bare_popMarked]
  cases state.popMarked with
  | error fault => rfl
  | ok popped =>
      obtain ⟨values, next⟩ := popped
      exact bare_yield next (make values)

theorem bare_combineOrFail (state : State σ) (operation : Value → Value → Answer) :
    combineOrFail state.bare operation = (combineOrFail state operation).map State.bare :=
  bare_yield state (operation state.second state.accumulator)

theorem bare_attempt (load : String → Except Failure Code) {op : Op}
    {attempt : State σ → Except Fault (State σ)}
    (attempts : attempt? environment op = some attempt) :
    ∃ attempt', attempt? (environment.bare load) op = some attempt' ∧
      ∀ state, attempt' state.bare = (attempt state).map State.bare := by
  cases op with
  | popToSecond =>
      cases attempts
      refine ⟨_, rfl, fun state => ?_⟩
      dsimp only
      rw [state.bare_pop]
      cases state.pop <;> rfl
  | pop =>
      cases attempts
      refine ⟨_, rfl, fun state => ?_⟩
      dsimp only
      rw [state.bare_pop]
      cases state.pop <;> rfl
  | fetchField name =>
      cases attempts
      exact ⟨_, rfl, fun state => bare_yield state (environment.library.fetchField _ name)⟩
  | filter name =>
      cases attempts
      exact ⟨_, rfl, fun state => bare_yield state (environment.library.call name _)⟩
  | div => cases attempts; exact ⟨_, rfl, fun state => bare_combineOrFail state _⟩
  | mod => cases attempts; exact ⟨_, rfl, fun state => bare_combineOrFail state _⟩
  | range => cases attempts; exact ⟨_, rfl, fun state => bare_combineOrFail state _⟩
  | makeList => cases attempts; exact ⟨_, rfl, fun state => bare_collect state _⟩
  | makeMap => cases attempts; exact ⟨_, rfl, fun state => bare_collect state _⟩
  | callFunction name => cases attempts; exact ⟨_, rfl, fun state => bare_collect state _⟩
  | callMethod name => cases attempts; exact ⟨_, rfl, fun state => bare_collect state _⟩
  | endCapture =>
      cases attempts
      refine ⟨_, rfl, fun state => ?_⟩
      unfold endCapture
      rw [state.bare_captures]
      cases state.captures <;> rfl
  | _ => cases attempts

theorem attempt?_bare_eq_none {op : Op} (unattempted : attempt? environment op = none) :
    attempt? (environment.bare load) op = none := by
  cases op with
  | _ => first | rfl | cases unattempted

/-! ## Jumps, calls and returns -/

/-- An outcome has some image, and a state of the loader that is allowed. -/
structure Mirrors (holds : σ → Prop) (outcome : Outcome σ) (image : Outcome Unit) : Prop where
  bare : outcome.bare = image
  holds : holds outcome.state.store

section Transfers

variable {holds : σ → Prop} {loader : Loader σ} {state : State σ}

theorem mirrors_raise (held : holds state.store) (failure : Failure) :
    Mirrors holds (raise failure state) (raise failure state.bare) := by
  rw [raise_eq, raise_eq, state.bare_trace]
  exact ⟨congrArg (Outcome.failed _) (state.bare_unwoundBy state.callers),
    state.shows_unwound.store ▸ held⟩

theorem mirrors_fail (held : holds state.store) (fault : Fault) :
    Mirrors holds (fail state fault) (fail state.bare fault) :=
  mirrors_raise held (.run ⟨fault, []⟩)

theorem mirrors_jump (state : State σ) (held : holds state.store) (offset : Int) :
    Mirrors holds (jump state offset) (jump state.bare offset) := by
  unfold jump
  rw [state.bare_ip, state.bare_ops]
  split
  · split
    · exact ⟨rfl, held⟩
    · exact mirrors_fail held _
  · exact mirrors_fail held _

theorem mirrors_jumpIf (held : holds state.store) (condition : Bool) (offset : Int) :
    Mirrors holds (jumpIf state condition offset) (jumpIf state.bare condition offset) := by
  unfold jumpIf
  split
  · exact mirrors_jump state held offset
  · exact ⟨rfl, held⟩

theorem mirrors_nextElement (held : holds state.store) (slot max : Nat) (exit : Int) :
    Mirrors holds (nextElement state slot max exit) (nextElement state.bare slot max exit) := by
  unfold nextElement
  rw [state.bare_items, state.bare_load]
  dsimp only
  split
  · split
    · exact mirrors_jump (state.warn _) held exit
    · exact ⟨rfl, held⟩
  · exact mirrors_jump state held exit

theorem mirrors_enter (state : State σ) (held : holds state.store) (name : String)
    (callee : Activation) (arguments : List Value) :
    Mirrors holds (enter environment state name callee arguments)
      (enter (environment.bare load) state.bare name callee.undated arguments) := by
  let counted := { state with depth := state.depth + 1 }
  unfold enter
  rw [state.bare_depth, show (environment.bare load).limits = environment.limits from rfl]
  dsimp only
  split
  · exact @mirrors_fail _ _ counted held _
  · exact ⟨rfl, held⟩

theorem mirrors_callMacro (held : holds state.store) (name : String) :
    Mirrors holds (callMacro environment state name)
      (callMacro (environment.bare load) state.bare name) := by
  unfold callMacro
  rw [state.bare_popMarked]
  cases found : state.popMarked with
  | error fault => exact mirrors_fail held fault
  | ok popped =>
      obtain ⟨values, next⟩ := popped
      obtain ⟨operands, marks, rfl⟩ := popMarked_cases found
      dsimp only [Except.map]
      rw [state.bare_macros]
      split
      · exact mirrors_fail held _
      · split
        · exact mirrors_fail held _
        · let popped := { state with operands, marks }
          exact mirrors_enter popped held _ _ values

/-- A loader that stays in the states that are allowed, and finds the same in all of them. -/
structure Finds (loader : Loader σ) (load : String → Except Failure Code) (holds : σ → Prop) :
    Prop where
  same : ∀ name store, holds store → (loader name store).1.map Code.undated = load name
  kept : ∀ name store, holds store → holds (loader name store).2

theorem mirrors_runTemplate (state : State σ) (present : environment.loader = some loader)
    (finds : Finds loader load holds) (held : holds state.store) (name : String)
    (bindings : Option (Dictionary Value)) :
    Mirrors holds (runTemplate environment state name bindings)
      (runTemplate (environment.bare load) state.bare name bindings) := by
  have same := finds.same name state.store held
  have kept := finds.kept name state.store held
  unfold runTemplate
  rw [present]
  dsimp only [Environment.bare]
  rw [← same]
  rcases loaded : loader name state.store with ⟨result, store⟩
  rw [loaded] at kept
  cases result with
  | error failure => exact @mirrors_raise _ _ { state with store } kept failure
  | ok code =>
      let callee : Activation := ⟨.inclusion name, code, code.ops.toArray, 0, 0, bindings⟩
      exact mirrors_enter { state with store } kept _ callee []

theorem mirrors_wrap (present : environment.loader = some loader)
    (finds : Finds loader load holds) (held : holds state.store) :
    Mirrors holds (wrap environment state) (wrap (environment.bare load) state.bare) := by
  unfold wrap
  rw [state.bare_pop, state.bare_second, state.bare_accumulator]
  cases found : state.pop with
  | error fault => exact mirrors_fail held fault
  | ok popped =>
      obtain ⟨content, next⟩ := popped
      obtain ⟨operands, rfl⟩ := pop_cases found
      exact mirrors_runTemplate { state with operands, second := .nil } present finds held _ _

theorem mirrors_leave (held : holds state.store) :
    Mirrors holds (leave state) (leave state.bare) := by
  unfold leave
  rw [state.bare_callers, state.bare_origin]
  cases state.callers with
  | nil => exact ⟨rfl, held⟩
  | cons caller callers =>
      rw [List.map_cons]
      dsimp only
      split
      · exact ⟨rfl, held⟩
      · exact ⟨rfl, held⟩

theorem mirrors_transfer (present : environment.loader = some loader)
    (finds : Finds loader load holds) (held : holds state.store) (op : Op) :
    Mirrors holds (transfer environment state op)
      (transfer (environment.bare load) state.bare op) := by
  cases op with
  | halt => exact mirrors_leave held
  | «and» offset => exact mirrors_jumpIf held _ offset
  | «or» offset => exact mirrors_jumpIf held _ offset
  | goto offset => exact mirrors_jump state held offset
  | jumpIfFalse offset => exact mirrors_jumpIf held _ offset
  | forNext slot max exit => exact mirrors_nextElement held slot max exit
  | callMacro name => exact mirrors_callMacro held name
  | inclusion => exact mirrors_runTemplate { state with second := .nil } present finds held _ _
  | wrapper => exact mirrors_wrap present finds held
  | _ => exact ⟨rfl, held⟩

/-! ## Runs -/

/-- What a step leads to does not depend on moments, or on what the loader keeps. -/
theorem mirrors_step (present : environment.loader = some loader)
    (finds : Finds loader load holds) (state : State σ) (held : holds state.store) :
    Mirrors holds (step environment state) (step (environment.bare load) state.bare) := by
  unfold step
  rw [state.bare_ops, state.bare_ip]
  split
  · exact mirrors_fail held _
  · next op found =>
      cases changes : change? environment op with
      | some change =>
          obtain ⟨change', changes', bare⟩ := bare_change load changes
          rw [changes']
          have same := (stays_of_change changes state).store
          exact ⟨congrArg Outcome.running (bare state), same ▸ held⟩
      | none =>
          rw [change?_bare_eq_none changes]
          cases attempts : attempt? environment op with
          | none =>
              rw [attempt?_bare_eq_none attempts]
              exact mirrors_transfer present finds held op
          | some attempt =>
              obtain ⟨attempt', attempts', bare⟩ := bare_attempt load attempts
              rw [attempts']
              dsimp only
              rw [bare state]
              cases done : attempt state with
              | error fault => exact mirrors_fail held fault
              | ok next => exact ⟨rfl, (stays_of_attempt attempts done).store ▸ held⟩

theorem mirrors_runFor (present : environment.loader = some loader)
    (finds : Finds loader load holds) (allowance : Nat) (state : State σ)
    (held : holds state.store) :
    Mirrors holds (runFor environment allowance state)
      (runFor (environment.bare load) allowance state.bare) := by
  induction allowance generalizing state with
  | zero => exact ⟨rfl, held⟩
  | succ allowance ih =>
      have here := mirrors_step present finds state held
      unfold runFor
      rw [← here.bare]
      cases stepped : step environment state with
      | running next =>
          rw [stepped] at here
          exact ih next here.holds
      | finished last =>
          rw [stepped] at here
          exact ⟨rfl, here.holds⟩
      | failed failure last =>
          rw [stepped] at here
          exact ⟨rfl, here.holds⟩

/-- What a run shows is what the run without moments shows. -/
theorem report_run (present : environment.loader = some loader)
    (finds : Finds loader load holds) (code : Code) {store : σ} (held : holds store) :
    (run environment code store).1 = (run (environment.bare load) code.undated ()).1 ∧
      holds (run environment code store).2 := by
  have runs := mirrors_runFor present finds patience (start code store) held
  have begins : (start code store).bare = start code.undated () := rfl
  rw [begins] at runs
  refine ⟨?_, runs.holds⟩
  unfold run
  dsimp only
  rw [← runs.bare, Outcome.bare_report]

end Transfers

end Stencil.Machine

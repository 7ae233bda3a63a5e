import Stencil.Proofs.Machine.Straying

/-!
# The call stack of an error

A run is seen as a history: which calls were entered, and when the latest of them was left. The
trace that an error carries lists the calls of its history that were entered and not left, and below
them the template that is rendered.
-/

namespace Stencil.Machine

variable {σ : Type}

/-! ## Histories -/

/-- What a step may tell of calls. -/
inductive Event where
  | enters (label : String)
  /-- The latest of the calls under way is left. -/
  | leaves
deriving Repr, DecidableEq

/-- Whether a call is left in which some others are under way. -/
def isLeft : Nat → List Event → Bool
  | _, [] => false
  | inner, .enters _ :: rest => isLeft (inner + 1) rest
  | inner + 1, .leaves :: rest => isLeft inner rest
  | 0, .leaves :: _ => true

/-- The calls that are entered and not left, the innermost first. -/
def openCalls : List Event → List String
  | [] => []
  | .enters label :: rest => if isLeft 0 rest then openCalls rest else openCalls rest ++ [label]
  | .leaves :: rest => openCalls rest

/-- What the next instruction tells of calls, if it can be taken. -/
def State.event? (state : State σ) : Option Event :=
  match state.current.ops[state.current.ip]? with
  | some (.callMacro name) => some (.enters s!"macro '{name}'")
  | some .inclusion | some .wrapper => some (.enters state.accumulator.display)
  | some .halt => some .leaves
  | _ => none

/-- What the steps of a run tell of calls. A step that ends the run enters nothing. -/
def history (environment : Environment σ) : Nat → State σ → List Event
  | 0, _ => []
  | count + 1, state =>
      match step environment state with
      | .running next => state.event?.toList ++ history environment count next
      | _ => []

/-- How many of the calls that were under way before are left. -/
def escapes : List Event → Nat
  | [] => 0
  | .enters _ :: rest => escapes rest - 1
  | .leaves :: rest => escapes rest + 1

theorem isLeft_iff {inner : Nat} {events : List Event} :
    isLeft inner events = true ↔ inner < escapes events := by
  fun_induction isLeft inner events with
  | case1 inner => simp [escapes]
  | case2 inner label rest ih =>
      rw [ih, escapes]
      omega
  | case3 inner rest ih =>
      rw [ih, escapes]
      omega
  | case4 rest => simp [escapes]

/-- The calls under way after an event. -/
def Event.follow (stack : List String) : Event → List String
  | .enters label => label :: stack
  | .leaves => stack.tail

/-- Of the calls under way before some events those remain that are not left. -/
theorem foldl_follow (events : List Event) (stack : List String) :
    events.foldl Event.follow stack = openCalls events ++ stack.drop (escapes events) := by
  induction events generalizing stack with
  | nil => rfl
  | cons event rest ih =>
      rw [List.foldl_cons, ih]
      cases event with
      | leaves => rw [Event.follow, openCalls, escapes, List.drop_tail]
      | enters label =>
          rw [Event.follow, openCalls, escapes]
          cases left : escapes rest with
          | zero =>
              have stays : ¬ isLeft 0 rest = true := by simp [isLeft_iff, left]
              rw [if_neg stays]
              simp
          | succ count =>
              have gone : isLeft 0 rest = true := by simp [isLeft_iff, left]
              rw [if_pos gone]
              simp

/-! ## Steps -/

theorem Goes.going {op : Op} {ip place : Nat} (goes : Goes op ip place) : op ≠ .halt := by
  cases goes with
  | onward going => exact going
  | across jumps _ =>
      rintro rfl
      cases jumps

theorem event?_of_found {state : State σ} {op : Op}
    (found : state.current.ops[state.current.ip]? = some op) (own : op.calls = false)
    (going : op ≠ .halt) : state.event? = none := by
  unfold State.event?
  rw [found]
  cases op with
  | callMacro | inclusion | wrapper => cases own
  | halt => exact absurd rfl going
  | _ => rfl

theorem origin_of_callMacro {environment : Environment σ} {state next : State σ} {name : String}
    (called : callMacro environment state name = .running next) :
    next.current.origin = .callMacro name := by
  obtain ⟨_, _, _, _, _, _, _, rfl⟩ := callMacro_cases called
  rfl

theorem origin_of_runTemplate {environment : Environment σ} {state next : State σ} {name : String}
    {bindings : Option (Dictionary Value)}
    (started : runTemplate environment state name bindings = .running next) :
    next.current.origin = .inclusion name := by
  obtain ⟨_, _, _, _, _, _, rfl⟩ := runTemplate_cases started
  rfl

theorem origin_of_wrap {environment : Environment σ} {state next : State σ}
    (wrapped : wrap environment state = .running next) :
    next.current.origin = .inclusion state.accumulator.display := by
  obtain ⟨_, _, _, _, started⟩ := wrap_cases wrapped
  exact origin_of_runTemplate started

/-- A step into a call tells the label of the call. -/
theorem event?_of_enters {environment : Environment σ} {state next : State σ} {op : Op}
    (found : state.current.ops[state.current.ip]? = some op) (calls : op.calls = true)
    (stepped : step environment state = .running next) :
    state.event? = some (.enters next.current.origin.label) := by
  unfold State.event?
  rw [found]
  cases op with
  | callMacro name =>
      rw [step_of_transfer found rfl rfl] at stepped
      rw [origin_of_callMacro stepped]
      rfl
  | inclusion =>
      rw [step_of_transfer found rfl rfl] at stepped
      rw [origin_of_runTemplate stepped]
      rfl
  | wrapper =>
      rw [step_of_transfer found rfl rfl] at stepped
      rw [origin_of_wrap stepped]
      rfl
  | _ => cases calls

/-- The trace follows what a step tells of calls. -/
theorem trace_of_step {environment : Environment σ} {state next : State σ}
    (stepped : step environment state = .running next) :
    next.trace = state.event?.toList.foldl Event.follow state.trace := by
  obtain ⟨op, found⟩ := op_of_step stepped
  cases effect_of_step found stepped with
  | stays stays works own =>
      rw [event?_of_found found own works.goes.going]
      simp only [Option.toList_none, List.foldl_nil, State.trace, List.map_cons, works.origin,
        stays.callers]
  | enters calls enters =>
      rw [event?_of_enters found calls stepped]
      simp only [Option.toList_some, List.foldl_cons, List.foldl_nil, Event.follow, State.trace,
        enters.callers, List.map_cons]
  | leaves halts leaves =>
      obtain ⟨caller, callers, current⟩ := leaves.caller
      have told : state.event? = some .leaves := by
        unfold State.event?
        rw [found, halts]
      rw [told]
      simp only [Option.toList_some, List.foldl_cons, List.foldl_nil, Event.follow, State.trace,
        callers, current, List.map_cons, List.tail_cons]
      rfl

/-! ## Steps that fail -/

/-- The template that the next instruction asks for. -/
def asked? (state : State σ) : Option String :=
  match state.current.ops[state.current.ip]?, state.operands with
  | some .inclusion, _ | some .wrapper, _ :: _ => some state.accumulator.display
  | _, _ => none

/-- What the loader answers to the next instruction. -/
def loaded? (environment : Environment σ) (state : State σ) : Option (Except Failure Code) :=
  match environment.loader, asked? state with
  | some load, some name => some (load name state.store).1
  | _, _ => none

/-- If an outcome is a failure, it is an error of the run with the given trace. -/
def Tells (trace : List String) (outcome : Outcome σ) : Prop :=
  ∀ failure after, outcome = .failed failure after → ∃ fault, failure = .run ⟨fault, trace⟩

theorem tells_running {trace : List String} (state : State σ) : Tells trace (.running state) := by
  rintro _ _ ⟨⟩

theorem tells_fail (state : State σ) (fault : Fault) : Tells state.trace (fail state fault) := by
  rw [fail_eq]
  rintro _ _ ⟨⟩
  exact ⟨fault, rfl⟩

theorem tells_jump (state : State σ) (offset : Int) : Tells state.trace (jump state offset) := by
  unfold jump
  split
  · split
    · exact tells_running _
    · exact tells_fail state _
  · exact tells_fail state _

theorem tells_jumpIf (state : State σ) (condition : Bool) (offset : Int) :
    Tells state.trace (jumpIf state condition offset) := by
  unfold jumpIf
  split
  · exact tells_jump state offset
  · exact tells_running _

theorem tells_nextElement (state : State σ) (slot max : Nat) (exit : Int) :
    Tells state.trace (nextElement state slot max exit) := by
  unfold nextElement
  dsimp only
  split
  · split
    · exact tells_jump (state.warn _) exit
    · exact tells_running _
  · exact tells_jump state exit

theorem tells_enter (environment : Environment σ) (state : State σ) (name : String)
    (callee : Activation) (arguments : List Value) :
    Tells state.trace (enter environment state name callee arguments) := by
  unfold enter
  dsimp only
  split
  · exact tells_fail { state with depth := state.depth + 1 } _
  · exact tells_running _

theorem tells_callMacro (environment : Environment σ) (state : State σ) (name : String) :
    Tells state.trace (callMacro environment state name) := by
  unfold callMacro
  split
  · exact tells_fail state _
  · next values popped found =>
      obtain ⟨operands, marks, rfl⟩ := popMarked_cases found
      dsimp only
      split
      · exact tells_fail state _
      · split
        · exact tells_fail state _
        · exact tells_enter environment { state with operands, marks } _ _ values

theorem tells_leave (trace : List String) (state : State σ) : Tells trace (leave state) := by
  unfold leave
  split
  · rintro _ _ ⟨⟩
  · dsimp only
    split
    · exact tells_running _
    · exact tells_running _

section

variable {environment : Environment σ} {state after : State σ} {failure : Failure}

theorem loaded?_of_asked {name : String} (asked : asked? state = some name) :
    loaded? environment state = environment.loader.map fun load => (load name state.store).1 := by
  unfold loaded?
  rw [asked]
  cases environment.loader <;> rfl

/-- How a step fails: by a failure that the loader answers with, which passes out of the calls
under way, or by a fault of its own in those calls. -/
def Fails (environment : Environment σ) (state : State σ) (failure : Failure) : Prop :=
  (∃ answer, loaded? environment state = some (.error answer) ∧
      failure = answer.out state.trace) ∨
    (∀ answer, loaded? environment state ≠ some (.error answer)) ∧
      ∃ fault, failure = .run ⟨fault, state.trace⟩

/-- A template that is asked for fails by the loader's answer, or with the calls under way. -/
theorem fails_of_runTemplate {ready : State σ} {name : String}
    {bindings : Option (Dictionary Value)} (asked : asked? state = some name)
    (store : ready.store = state.store) (trace : ready.trace = state.trace)
    (failed : runTemplate environment ready name bindings = .failed failure after) :
    Fails environment state failure := by
  rw [Fails, loaded?_of_asked asked, ← store, ← trace]
  unfold runTemplate at failed
  split at failed
  · next none =>
      rw [none]
      refine .inr ⟨by simp, ?_⟩
      exact tells_fail ready (.noLoader name) failure after failed
  · next load present =>
      rw [present, Option.map_some]
      split at failed
      · next answer store answered =>
          rw [raise_eq] at failed
          cases failed
          rw [answered]
          exact .inl ⟨answer, rfl, rfl⟩
      · next code store answered =>
          rw [answered]
          refine .inr ⟨by simp, ?_⟩
          exact tells_enter environment { ready with store } _ _ [] failure after failed

theorem asked?_of_found {op : Op} (found : state.current.ops[state.current.ip]? = some op)
    (inclusion : op ≠ .inclusion) (wrapper : op ≠ .wrapper) : asked? state = none := by
  unfold asked?
  rw [found]
  split
  · next same => exact absurd (Option.some.inj same) inclusion
  · next same _ => exact absurd (Option.some.inj same) wrapper
  · rfl

theorem loaded?_of_unasked (unasked : asked? state = none) : loaded? environment state = none := by
  unfold loaded?
  rw [unasked]
  split
  · next asked => cases asked
  · rfl

theorem not_answered_of_unasked (unasked : asked? state = none) (answer : Failure) :
    loaded? environment state ≠ some (.error answer) := by
  rw [loaded?_of_unasked unasked]
  exact nofun

/-- What a jump, a call or a return fails with, unless it asks for a template. -/
theorem tells_transfer (environment : Environment σ) (state : State σ) {op : Op}
    (inclusion : op ≠ .inclusion) (wrapper : op ≠ .wrapper) :
    Tells state.trace (transfer environment state op) := by
  cases op with
  | halt => exact tells_leave _ state
  | «and» offset | «or» offset | jumpIfFalse offset => exact tells_jumpIf state _ offset
  | goto offset => exact tells_jump state offset
  | forNext slot max exit => exact tells_nextElement state slot max exit
  | callMacro name => exact tells_callMacro environment state name
  | inclusion => exact absurd rfl inclusion
  | wrapper => exact absurd rfl wrapper
  | _ => exact tells_running _

theorem fails_of_inclusion (found : state.current.ops[state.current.ip]? = some .inclusion)
    (failed : transfer environment state .inclusion = .failed failure after) :
    Fails environment state failure := by
  have asked : asked? state = some state.accumulator.display := by rw [asked?, found]
  rw [transfer] at failed
  refine fails_of_runTemplate asked ?_ ?_ failed
  · rfl
  · rfl

theorem fails_of_wrapper (found : state.current.ops[state.current.ip]? = some .wrapper)
    (failed : transfer environment state .wrapper = .failed failure after) :
    Fails environment state failure := by
  rw [transfer, wrap, State.pop] at failed
  cases operands : state.operands with
  | nil =>
      have unasked : asked? state = none := by rw [asked?, found, operands]
      rw [operands] at failed
      exact .inr ⟨not_answered_of_unasked unasked, tells_fail state _ _ _ failed⟩
  | cons content rest =>
      have asked : asked? state = some state.accumulator.display := by
        rw [asked?, found, operands]
      rw [operands] at failed
      refine fails_of_runTemplate asked ?_ ?_ failed
      · rfl
      · rfl

/-- A step fails by the loader's answer, or with the calls under way. -/
theorem fails_of_step (failed : step environment state = .failed failure after) :
    Fails environment state failure := by
  have own (unasked : asked? state = none) (tells : Tells state.trace (step environment state)) :
      (∀ answer, loaded? environment state ≠ some (.error answer)) ∧
        ∃ fault, failure = .run ⟨fault, state.trace⟩ :=
    ⟨not_answered_of_unasked unasked, tells failure after failed⟩
  cases found : state.current.ops[state.current.ip]? with
  | none =>
      have unasked : asked? state = none := by rw [asked?, found]
      refine .inr (own unasked ?_)
      rw [step, found]
      exact tells_fail state _
  | some op =>
      cases changes : change? environment op with
      | some change =>
          rw [step_of_change found changes] at failed
          cases failed
      | none =>
          cases attempts : attempt? environment op with
          | some attempt =>
              refine .inr (own (asked?_of_found found ?_ ?_) ?_)
              · rintro rfl
                cases attempts
              · rintro rfl
                cases attempts
              · rw [step_of_attempt found changes attempts]
                split
                · exact tells_running _
                · exact tells_fail state _
          | none =>
              have stepped := step_of_transfer found changes attempts
              by_cases inclusion : op = .inclusion
              · subst inclusion
                rw [stepped] at failed
                exact fails_of_inclusion found failed
              · by_cases wrapper : op = .wrapper
                · subst wrapper
                  rw [stepped] at failed
                  exact fails_of_wrapper found failed
                · refine .inr (own (asked?_of_found found inclusion wrapper) ?_)
                  rw [stepped]
                  exact tells_transfer environment state inclusion wrapper

end

/-! ## Runs -/

section

variable {environment : Environment σ} {count allowance : Nat} {first last after : State σ}
  {failure : Failure}

theorem history_succ {next : State σ} (stepped : step environment first = .running next) :
    history environment (count + 1) first =
      first.event?.toList ++ history environment count next := by
  rw [history, stepped]

/-- The trace follows what a run tells of calls, and the activation at the bottom is not left. -/
theorem trace_of_path {kind : State σ → Prop} (path : Path environment kind count first last) :
    last.trace = (history environment count first).foldl Event.follow first.trace ∧
      escapes (history environment count first) < first.trace.length := by
  induction path with
  | here state => exact ⟨rfl, Nat.zero_lt_succ _⟩
  | @step count first next last inside stepped rest ih =>
      obtain ⟨trace, kept⟩ := ih
      have followed := trace_of_step stepped
      rw [history_succ stepped, List.foldl_append, ← followed]
      refine ⟨trace, ?_⟩
      rw [followed] at kept
      cases told : first.event? with
      | none =>
          rw [told] at kept
          exact kept
      | some event =>
          rw [told] at kept
          have bottom : 0 < first.trace.length := Nat.zero_lt_succ _
          cases event with
          | enters label =>
              simp only [Option.toList_some, List.foldl_cons, List.foldl_nil, Event.follow,
                List.length_cons] at kept
              simp only [Option.toList_some, List.singleton_append, escapes]
              omega
          | leaves =>
              simp only [Option.toList_some, List.foldl_cons, List.foldl_nil, Event.follow,
                List.length_tail] at kept
              simp only [Option.toList_some, List.singleton_append, escapes]
              omega

/-- The calls under way in a run are those that were entered and not left. -/
theorem trace_of_run {code : Code} {store : σ}
    (reached : runFor environment count (start code store) = .running last) :
    last.trace = openCalls (history environment count (start code store)) ++ [code.name] := by
  obtain ⟨trace, kept⟩ := trace_of_path (path_of_runFor reached)
  have none : escapes (history environment count (start code store)) = 0 := Nat.lt_one_iff.mp kept
  rw [trace, foldl_follow, none]
  rfl

theorem history_add {kind : State σ → Prop} {more : Nat}
    (path : Path environment kind count first last) :
    history environment (count + more) first =
      history environment count first ++ history environment more last := by
  induction path with
  | here state => rw [Nat.zero_add, history, List.nil_append]
  | step _ stepped _ ih =>
      rw [Nat.add_right_comm, history_succ stepped, history_succ stepped, ih, List.append_assoc]

/-- A run that fails has the history of the state in which it does. -/
theorem stopped_of_failed (ran : runFor environment allowance first = .failed failure after) :
    ∃ place last, runFor environment place first = .running last ∧
      step environment last = .failed failure after ∧
      history environment allowance first = history environment place first := by
  obtain ⟨place, last, reached, failed⟩ := path_of_failed ran
  refine ⟨place, last, reached, failed, ?_⟩
  obtain shorter | longer := Nat.lt_or_ge place allowance
  · obtain ⟨more, rfl⟩ := Nat.exists_eq_add_of_lt shorter
    have still : history environment (more + 1) last = [] := by simp only [history, failed]
    rw [Nat.add_assoc, history_add (path_of_runFor reached), still, List.append_nil]
  · obtain ⟨more, rfl⟩ := Nat.exists_eq_add_of_le longer
    have ended : (runFor environment allowance first).Ended := by
      rw [ran]
      exact Outcome.ended_failed failure after
    rw [runFor_add_of_ended ended, ran] at reached
    cases reached

/-- Whatever code is run, in whatever environment: an error of the run comes out with the calls that
were entered and not left when it arose, the innermost first, and below them the name of the code.
So does an error of a run that the loader answers with, below what that tells already; its other
failures come out as they are. -/
theorem failed_run_tells_calls (environment : Environment σ) (code : Code) (store : σ)
    (allowance : Nat) (failure : Failure) (after : State σ)
    (ran : runFor environment allowance (start code store) = .failed failure after) :
    let calls := openCalls (history environment allowance (start code store)) ++ [code.name]
    ∃ place last, runFor environment place (start code store) = .running last ∧
      step environment last = .failed failure after ∧
      ((∀ answer, loaded? environment last ≠ some (.error answer)) →
        ∃ fault, failure = .run ⟨fault, calls⟩) ∧
      ∀ answer, loaded? environment last = some (.error answer) →
        match answer with
        | .run error => failure = .run ⟨error.fault, error.trace ++ calls⟩
        | other => failure = other := by
  obtain ⟨place, last, reached, failed, same⟩ := stopped_of_failed ran
  refine ⟨place, last, reached, failed, ?_⟩
  rw [same, ← trace_of_run reached]
  obtain ⟨answer, answered, rfl⟩ | ⟨own, told⟩ := fails_of_step failed
  · refine ⟨fun own => absurd answered (own answer), ?_⟩
    intro answer' answered'
    cases answered.symm.trans answered'
    cases answer <;> rfl
  · exact ⟨fun _ => told, fun answer answered => absurd answered (own answer)⟩

end

/-- A page that fails in a template that its second macro includes. -/
def faulty : Code where
  name := "page"
  generatedAt := ⟨0⟩
  ops := [.pushMark, .callMacro "fine", .pushMark, .callMacro "boom", .halt]
  macros := [("fine", ⟨[], [.halt]⟩), ("boom", ⟨[], [.literal (.text "part"), .inclusion, .halt]⟩)]

def faulting : Environment Unit where
  library := .builtins
  limits := .standard
  loader := some fun name store => (.ok ⟨name, ⟨0⟩, [.pop, .halt], []⟩, store)
  «variables» := []

theorem faulty_run_tells_calls :
    (runFor faulting 9 (start faulty ())).ending =
      .failed (.run ⟨.underflow "operand stack", ["part", "macro 'boom'", "page"]⟩) ∧
    history faulting 9 (start faulty ()) =
      [.enters "macro 'fine'", .leaves, .enters "macro 'boom'", .enters "part"] ∧
    ∃ fault, Failure.run ⟨.underflow "operand stack", ["part", "macro 'boom'", "page"]⟩ =
      .run ⟨fault, openCalls (history faulting 9 (start faulty ())) ++ [faulty.name]⟩ := by
  have ending : (runFor faulting 9 (start faulty ())).ending =
      .failed (.run ⟨.underflow "operand stack", ["part", "macro 'boom'", "page"]⟩) := by
    decide +kernel
  obtain ⟨after, ran⟩ : ∃ after, runFor faulting 9 (start faulty ()) =
      .failed (.run ⟨.underflow "operand stack", ["part", "macro 'boom'", "page"]⟩) after := by
    revert ending
    cases runFor faulting 9 (start faulty ()) with
    | running state => exact nofun
    | finished state => exact nofun
    | failed failure after =>
        rintro ⟨⟩
        exact ⟨after, rfl⟩
  obtain ⟨_, last, _, _, own, _⟩ := failed_run_tells_calls _ _ _ _ _ _ ran
  refine ⟨ending, by decide +kernel, own fun answer answered => ?_⟩
  unfold loaded? at answered
  split at answered
  · next load name present asked =>
      cases present
      cases answered
  · cases answered

end Stencil.Machine

import Stencil.Proofs.Code.Checked
import Stencil.Proofs.Compilation.Texts
import Stencil.Proofs.Machine.Effects
import Stencil.Proofs.Value.Honest

/-!
# Runs of checked code stay in it

The check of code looks at the ends and the jumps of its streams only. That is enough for any run:
whatever the instructions do otherwise, the current activation and those that wait for it have their
next instruction, so the machine never leaves the code.
-/

namespace Stencil.Machine

variable {σ : Type}

/-- There is no next instruction, or it jumps out of the code. -/
def Strays (state : State σ) : Prop :=
  match state.current.ops[state.current.ip]? with
  | none => True
  | some op => op.jump?.isSome ∧ BrokenBy state op

/-- A loader whose codes pass the check, as long as its store is of a kind that it keeps. -/
structure Checking (holds : σ → Prop) (load : Loader σ) : Prop where
  kept : ∀ name store, holds store → holds (load name store).2
  checked : ∀ name store code, holds store → (load name store).1 = .ok code → code.check = .ok ()

/-- Code that is compiled passes the check. -/
theorem Compiling.checking {dialects : Token.Dialect → Prop} {holds : σ → Prop} {load : Loader σ}
    (compiling : Compiling dialects holds load) : Checking holds load := by
  refine ⟨compiling.kept, ?_⟩
  intro name store code held loaded
  obtain ⟨_, text, optimize, name, _, _, made⟩ := compiling.compiled name store code held loaded
  exact check_of_compileSource made

/-! ## Places inside -/

/-- Where an instruction of a contained stream goes on, there is one. -/
theorem Goes.lt_length {ops : List Op} {op : Op} {ip next : Nat} (goes : Goes op ip next)
    (contained : Contained ops) (found : ops[ip]? = some op) : next < ops.length := by
  cases goes with
  | onward going => exact contained.succ_lt found going
  | across jumps reached =>
      obtain ⟨target, reached', below⟩ := contained.jumps ip op _ found jumps
      rw [Nat.zero_add, reached] at reached'
      cases reached'
      exact below

/-- An activation of checked code whose next instruction is in its stream. -/
structure Activation.Inside (activation : Activation) : Prop where
  checked : activation.code.check = .ok ()
  contained : Contained activation.ops.toList
  within : activation.ip < activation.ops.toList.length

/-- All activations are at an instruction, those that wait at the one behind their call. -/
structure Inside (holds : σ → Prop) (state : State σ) : Prop where
  current : state.current.Inside
  callers : ∀ caller ∈ state.callers, caller.advance.Inside
  store : holds state.store

namespace Activation.Inside

variable {activation next : Activation} {op : Op}

/-- Behind an instruction that does not end the stream an activation is inside again. -/
theorem advance (inside : activation.Inside) (found : activation.ops[activation.ip]? = some op)
    (going : op ≠ .halt) : activation.advance.Inside := by
  rw [← Array.getElem?_toList] at found
  exact ⟨inside.checked, inside.contained, inside.contained.succ_lt found going⟩

theorem goes (inside : activation.Inside) (found : activation.ops[activation.ip]? = some op)
    (goes : Goes op activation.ip next.ip) (code : next.code = activation.code)
    (ops : next.ops = activation.ops) : next.Inside := by
  rw [← Array.getElem?_toList] at found
  have place := goes.lt_length inside.contained found
  constructor
  · rw [code]
    exact inside.checked
  · rw [ops]
    exact inside.contained
  · rw [ops]
    exact place

theorem begins {code : Code} {ops : List Op} (checked : code.check = .ok ())
    (contained : Contained ops) (isCode : activation.code = code)
    (isOps : activation.ops = ops.toArray) (isStart : activation.ip = 0) : activation.Inside := by
  subst isCode
  constructor
  · exact checked
  · rw [isOps]
    exact contained
  · rw [isOps, isStart]
    exact contained.nonempty

end Activation.Inside

section

variable {environment : Environment σ} {holds : σ → Prop} {state next last : State σ}

theorem Inside.not_strays (inside : Inside holds state) : ¬ Strays state := by
  have within := inside.current.within
  unfold Strays
  split
  · next missing =>
      rw [← Array.getElem?_toList] at missing
      exact absurd within (Nat.not_lt.mpr (List.getElem?_eq_none_iff.mp missing))
  · next op found =>
      rw [← Array.getElem?_toList] at found
      have stays (offset : Int) (jumps : op.jump? = some offset) : ¬ LeavesCode state offset := by
        obtain ⟨target, reached, below⟩ := inside.current.contained.jumps _ op offset found jumps
        rw [Nat.zero_add] at reached
        exact fun leaves => absurd below (Nat.not_lt.mpr (leaves target reached))
      rintro ⟨jumps, broken⟩
      cases op with
      | goto offset => exact stays offset rfl broken
      | «and» offset => exact stays offset rfl broken.2
      | «or» offset => exact stays offset rfl broken.2
      | jumpIfFalse offset => exact stays offset rfl broken.2
      | forNext slot max exit => exact stays exit rfl broken.2
      | _ => cases jumps

/-- Steps lead from such states to such states. -/
theorem Inside.step (checking : ∀ load ∈ environment.loader, Checking holds load)
    (inside : Inside holds state) (stepped : Machine.step environment state = .running next) :
    Inside holds next := by
  obtain ⟨op, found⟩ : ∃ op, state.current.ops[state.current.ip]? = some op :=
    ⟨_, Array.getElem?_eq_getElem inside.current.within⟩
  cases effect_of_step found stepped with
  | stays stays works _ =>
      refine ⟨inside.current.goes found works.goes stays.code stays.ops, ?_, ?_⟩
      · rw [stays.callers]
        exact inside.callers
      · rw [stays.store]
        exact inside.store
  | enters calls enters =>
      have waiting : ∀ caller ∈ next.callers, caller.advance.Inside := by
        rw [enters.callers, List.forall_mem_cons]
        refine ⟨inside.current.advance found ?_, inside.callers⟩
        rintro rfl
        cases calls
      obtain ⟨name, body, _, known, code, ops, _, store⟩ |
        ⟨load, name, _, present, loaded, ops, _⟩ := enters.callee
      · have contained := Code.contained_of_find? inside.current.checked known
        refine ⟨.begins inside.current.checked contained code ops enters.begins, waiting, ?_⟩
        rw [store]
        exact inside.store
      · obtain ⟨kept, checked⟩ := checking load present
        have held := kept name state.store inside.store
        have sound := checked name state.store next.current.code inside.store (by rw [loaded])
        rw [loaded] at held
        have contained := (Code.check_eq_ok.mp sound).1
        exact ⟨.begins sound contained rfl ops enters.begins, waiting, held⟩
  | leaves _ leaves =>
      obtain ⟨caller, callers, current⟩ := leaves.caller
      obtain ⟨first, others⟩ := List.forall_mem_cons.mp (callers ▸ inside.callers)
      exact ⟨current ▸ first, others, leaves.store ▸ inside.store⟩

theorem inside_start {code : Code} {store : σ} (checked : code.check = .ok ())
    (held : holds store) : Inside holds (start code store) where
  current := .begins checked (Code.check_eq_ok.mp checked).1 rfl rfl rfl
  callers := nofun
  store := held

theorem Inside.path (checking : ∀ load ∈ environment.loader, Checking holds load)
    {kind : State σ → Prop} {count : Nat} (inside : Inside holds state)
    (path : Path environment kind count state last) : Inside holds last := by
  induction path with
  | here state => exact inside
  | step _ stepped _ ih => exact ih (inside.step checking stepped)

end

/-! ## Faults of steps -/

/-- An environment in which only the machine says that the code was left. -/
structure Environment.Honest (environment : Environment σ) : Prop where
  library : environment.library.Honest
  loader : ∀ load ∈ environment.loader, ∀ name store failure,
    (load name store).1 = .error failure → failure.strays = false

/-- An outcome that does not say that the code was left. -/
def Outcome.Honest (outcome : Outcome σ) : Prop :=
  ∀ failure after, outcome = .failed failure after → failure.strays = false

theorem honest_running (state : State σ) : (Outcome.running state).Honest := by
  intro failure after failed
  cases failed

theorem strays_out (failure : Failure) (calls : List String) :
    (failure.out calls).strays = failure.strays := by
  cases failure <;> rfl

/-- Calls that are added to a failure do not say that the code was left. -/
theorem honest_raise {failure : Failure} (state : State σ) (plain : failure.strays = false) :
    (raise failure state).Honest := by
  rw [raise_eq]
  rintro _ _ ⟨⟩
  rw [strays_out]
  exact plain

theorem honest_fail {fault : Fault} (state : State σ) (plain : fault.strays = false) :
    (fail state fault).Honest :=
  honest_raise state plain

theorem honest_pop (state : State σ) : Honest state.pop := by
  unfold State.pop
  split
  · exact honest_ok _
  · exact honest_error rfl

theorem honest_popMarked (state : State σ) : Honest state.popMarked := by
  unfold State.popMarked
  split
  · exact honest_error rfl
  · split
    · exact honest_error rfl
    · exact honest_ok _

theorem honest_collect (state : State σ) {make : List Value → Answer}
    (honest : ∀ items, Honest (make items)) : Honest (collect state make) :=
  (honest_popMarked state).bind fun _ _ => (honest _).bind fun _ _ => honest_ok _

theorem honest_invoke {library : Library} (honest : library.Honest) (name : String)
    (values : List Value) : Honest (invoke library name values) := by
  unfold invoke
  split
  · exact honest_error rfl
  · exact Library.honest_callMethod honest _ _ _

theorem honest_range (limits : Limits) (first last : Int) : Honest (range limits first last) := by
  unfold range
  dsimp only
  split
  · exact honest_error rfl
  · exact honest_ok _

section

variable {environment : Environment σ} {state : State σ}

theorem honest_attempt (honest : environment.Honest) {op : Op}
    {attempt : State σ → Except Fault (State σ)} (attempts : attempt? environment op = some attempt)
    (state : State σ) : Honest (attempt state) := by
  cases op with
  | popToSecond => cases attempts; exact (honest_pop state).bind fun _ _ => honest_ok _
  | pop => cases attempts; exact (honest_pop state).bind fun _ _ => honest_ok _
  | fetchField name =>
      cases attempts
      exact (Library.honest_fetchField _ _ _).bind fun _ _ => honest_ok _
  | div => cases attempts; exact (Value.honest_div _ _).bind fun _ _ => honest_ok _
  | mod => cases attempts; exact (Value.honest_rem _ _).bind fun _ _ => honest_ok _
  | range => cases attempts; exact (honest_range _ _ _).bind fun _ _ => honest_ok _
  | makeList => cases attempts; exact honest_collect state fun _ => honest_ok _
  | makeMap => cases attempts; exact honest_collect state fun _ => honest_ok _
  | callFunction name =>
      cases attempts
      exact honest_collect state (Library.honest_call honest.library name)
  | callMethod name =>
      cases attempts
      exact honest_collect state (honest_invoke honest.library name)
  | filter name =>
      cases attempts
      exact (Library.honest_call honest.library name _).bind fun _ _ => honest_ok _
  | endCapture =>
      cases attempts
      unfold endCapture
      split
      · exact honest_error rfl
      · exact honest_ok _
  | _ => cases attempts

theorem honest_enter (environment : Environment σ) (state : State σ) (name : String)
    (callee : Activation) (arguments : List Value) :
    (enter environment state name callee arguments).Honest := by
  unfold enter
  dsimp only
  split
  · exact honest_fail _ rfl
  · exact honest_running _

theorem honest_callMacro (environment : Environment σ) (state : State σ) (name : String) :
    (callMacro environment state name).Honest := by
  unfold callMacro
  split
  · next fault failed => exact honest_fail state (honest_popMarked state fault failed)
  · dsimp only
    split
    · exact honest_fail state rfl
    · split
      · exact honest_fail state rfl
      · exact honest_enter _ _ _ _ _

theorem honest_runTemplate (honest : environment.Honest) (state : State σ) (name : String)
    (bindings : Option (Dictionary Value)) :
    (runTemplate environment state name bindings).Honest := by
  unfold runTemplate
  split
  · exact honest_fail state rfl
  · next load present =>
      split
      · next failure store failed =>
          exact honest_raise _ (honest.loader load present name state.store failure (by rw [failed]))
      · exact honest_enter _ _ _ _ _

theorem honest_wrap (honest : environment.Honest) (state : State σ) :
    (wrap environment state).Honest := by
  unfold wrap
  split
  · next fault failed => exact honest_fail state (honest_pop state fault failed)
  · exact honest_runTemplate honest _ _ _

theorem honest_leave (state : State σ) : (leave state).Honest := by
  unfold leave
  split
  · intro failure after failed
    cases failed
  · dsimp only
    split
    · exact honest_running _
    · exact honest_running _

/-- A jump that stays in the code does not fail. -/
theorem honest_jump {offset : Int} (stays : ¬ LeavesCode state offset) :
    (jump state offset).Honest := by
  obtain ⟨target, reached, below⟩ : ∃ target,
      jumpTarget? state.current.ip offset = some target ∧ target < state.current.ops.size := by
    simpa [LeavesCode] using stays
  rw [jump, reached]
  dsimp only
  rw [if_pos below]
  exact honest_running _

theorem honest_jumpIf {condition : Bool} {offset : Int}
    (stays : ¬ (condition = true ∧ LeavesCode state offset)) :
    (jumpIf state condition offset).Honest := by
  unfold jumpIf
  split
  · next taken => exact honest_jump fun leaves => stays ⟨taken, leaves⟩
  · exact honest_running _

theorem honest_nextElement {slot max : Nat} {exit : Int}
    (stays : ¬ (NoNext state slot max ∧ LeavesCode state exit)) :
    (nextElement state slot max exit).Honest := by
  unfold nextElement
  dsimp only
  split
  · next item found =>
      split
      · next past =>
          refine @honest_jump _ (state.warn _) exit fun leaves => stays ⟨?_, leaves⟩
          intro other found'
          exact past
      · exact honest_running _
  · next missing =>
      refine honest_jump fun leaves => stays ⟨?_, leaves⟩
      intro item found
      rw [missing] at found
      cases found

/-- Where an instruction is and its jump stays in the code, the machine does not say that it was
left. -/
theorem honest_step (honest : environment.Honest) (inside : ¬ Strays state) :
    (step environment state).Honest := by
  cases found : state.current.ops[state.current.ip]? with
  | none => exact absurd (by rw [Strays, found]; trivial) inside
  | some op =>
      have stays (jumps : op.jump?.isSome = true) : ¬ BrokenBy state op := by
        intro broken
        refine inside ?_
        rw [Strays, found]
        exact ⟨jumps, broken⟩
      cases changes : change? environment op with
      | some change =>
          rw [step_of_change found changes]
          exact honest_running _
      | none =>
          cases attempts : attempt? environment op with
          | some attempt =>
              rw [step_of_attempt found changes attempts]
              split
              · exact honest_running _
              · next fault failed =>
                  exact honest_fail state (honest_attempt honest attempts state fault failed)
          | none =>
              rw [step_of_transfer found changes attempts]
              cases op with
              | halt => exact honest_leave state
              | «and» offset =>
                  exact honest_jumpIf fun leaves => stays rfl ⟨by simpa using leaves.1, leaves.2⟩
              | «or» offset => exact honest_jumpIf (stays rfl)
              | goto offset => exact honest_jump (stays rfl)
              | jumpIfFalse offset =>
                  exact honest_jumpIf fun leaves => stays rfl ⟨by simpa using leaves.1, leaves.2⟩
              | forNext slot max exit => exact honest_nextElement (stays rfl)
              | callMacro name => exact honest_callMacro environment state name
              | inclusion => exact honest_runTemplate honest _ _ _
              | wrapper => exact honest_wrap honest state
              | _ => exact honest_running _

end

/-! ## Runs -/

/-- A run that fails comes to a state whose step fails. -/
theorem path_of_failed {environment : Environment σ} {count : Nat} {first after : State σ}
    {failure : Failure} (ran : runFor environment count first = .failed failure after) :
    ∃ place last, runFor environment place first = .running last ∧
      step environment last = .failed failure after := by
  induction count generalizing first with
  | zero => cases ran
  | succ count ih =>
      rw [runFor] at ran
      split at ran
      · next next stepped =>
          obtain ⟨place, last, reached, failed⟩ := ih ran
          refine ⟨place + 1, last, ?_, failed⟩
          rw [runFor, stepped]
          exact reached
      · exact ⟨0, first, rfl, ran⟩

variable {environment : Environment σ} {holds : σ → Prop} {code : Code} {store : σ}

/-- No run of checked code leaves the code, in its own stream, in that of a macro or in that of a
template that it includes, and none fails as if it had: only the functions, the methods and the
loader could still claim so. -/
theorem checked_code_never_strays
    (checking : ∀ load ∈ environment.loader, Checking holds load)
    (checked : code.check = .ok ()) (held : holds store) :
    (∀ count state, runFor environment count (start code store) = .running state →
      ¬ Strays state) ∧
    (environment.Honest → ∀ count failure after,
      runFor environment count (start code store) = .failed failure after →
        failure.strays = false) := by
  have inside (count : Nat) (state : State σ)
      (reached : runFor environment count (start code store) = .running state) : ¬ Strays state :=
    ((inside_start checked held).path checking (path_of_runFor reached)).not_strays
  refine ⟨inside, ?_⟩
  intro honest count failure after ran
  obtain ⟨place, last, reached, failed⟩ := path_of_failed ran
  exact honest_step honest (inside place last reached) failure after failed

/-- Code that no template has: it includes itself, jumps back, and its macro pops what was never
pushed. -/
def foreign : Code where
  name := "foreign"
  generatedAt := ⟨0⟩
  ops := [.or 2, .inclusion, .pushMark, .callMacro "pop", .goto (-4), .halt]
  macros := [("pop", ⟨[], [.goto 2, .halt, .pop, .halt]⟩)]

def foreignEnvironment : Environment Unit where
  library := .builtins
  limits := .standard
  loader := some fun _ store => (.ok foreign, store)
  «variables» := []

theorem foreign_code_never_strays :
    foreign.check = .ok () ∧
    (∀ count state, runFor foreignEnvironment count (start foreign ()) = .running state →
      ¬ Strays state) ∧
    ∀ count failure after,
      runFor foreignEnvironment count (start foreign ()) = .failed failure after →
        failure.strays = false := by
  have checked : foreign.check = .ok () := by rfl
  have checking : ∀ load ∈ foreignEnvironment.loader, Checking (fun _ => True) load := by
    rintro _ ⟨⟩
    refine ⟨fun _ _ _ => trivial, ?_⟩
    rintro _ _ _ _ ⟨⟩
    exact checked
  have honest : foreignEnvironment.Honest := by
    refine ⟨Library.honest_builtins, ?_⟩
    rintro _ ⟨⟩ _ _ _ ⟨⟩
  obtain ⟨inside, failures⟩ := @checked_code_never_strays Unit _ _ _ () checking checked trivial
  exact ⟨checked, inside, failures honest⟩

end Stencil.Machine

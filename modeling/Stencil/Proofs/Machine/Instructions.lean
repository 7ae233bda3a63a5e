import Stencil.Proofs.Machine.Scene

/-!
# Instructions in a scene

What one instruction does to a pose and a world.
-/

namespace Stencil.Machine.Scene

open Meaning (World)

variable {σ τ : Type} {scene : Scene σ τ} {kind : State τ → Prop} {pose : Pose}
  {world : World σ} {store : τ}

theorem At.step_change {op : Op} {change : State τ → State τ} (here : scene.At kind pose.ip op)
    (changes : change? scene.environment op = some change) :
    step scene.environment (scene.state pose world store) =
      .running (change (scene.state pose world store)) := by
  apply step_of_change _ changes
  exact here.found

theorem At.step_attempt {op : Op} {attempt : State τ → Except Fault (State τ)}
    (here : scene.At kind pose.ip op) (unchanging : change? scene.environment op = none)
    (attempts : attempt? scene.environment op = some attempt) :
    step scene.environment (scene.state pose world store) =
      match attempt (scene.state pose world store) with
      | .ok next => .running next
      | .error fault => fail (scene.state pose world store) fault := by
  apply step_of_attempt _ unchanging attempts
  exact here.found

theorem At.step_transfer {op : Op} (here : scene.At kind pose.ip op)
    (unchanging : change? scene.environment op = none)
    (attemptless : attempt? scene.environment op = none) :
    step scene.environment (scene.state pose world store) =
      transfer scene.environment (scene.state pose world store) op := by
  apply step_of_transfer _ unchanging attemptless
  exact here.found

theorem At.not_broken {op : Op} (here : scene.At kind pose.ip op)
    (sound : ¬ BrokenBy (scene.state pose world store) op) :
    ¬ Broken (scene.state pose world store) := by
  intro broken
  exact sound ((broken_iff here.found).mp broken)

/-! ## Registers and stacks -/

theorem step_literal {literal : Literal} (here : scene.At kind pose.ip (.literal literal)) :
    step scene.environment (scene.state pose world store) = .running
      (scene.state { pose with ip := pose.ip + 1, accumulator := ofLiteral literal } world store) :=
  here.step_change rfl

theorem step_loadNil (here : scene.At kind pose.ip .loadNil) :
    step scene.environment (scene.state pose world store) = .running
      (scene.state { pose with ip := pose.ip + 1, accumulator := .nil } world store) :=
  here.step_change rfl

theorem step_moveToSecond (here : scene.At kind pose.ip .moveToSecond) :
    step scene.environment (scene.state pose world store) = .running
      (scene.state { pose with
        ip := pose.ip + 1, accumulator := .nil, second := pose.accumulator } world store) :=
  here.step_change rfl

theorem step_push (here : scene.At kind pose.ip .push) :
    step scene.environment (scene.state pose world store) = .running
      (scene.state { pose with
        ip := pose.ip + 1
        operands := pose.accumulator :: pose.operands
        accumulator := .nil } world store) :=
  here.step_change rfl

theorem step_pushMark (here : scene.At kind pose.ip .pushMark) :
    step scene.environment (scene.state pose world store) = .running
      (scene.state { pose with
        ip := pose.ip + 1, marks := pose.operands.length :: pose.marks } world store) :=
  here.step_change rfl

theorem pop_eq {value : Value} {rest : List Value} (stacked : pose.operands = value :: rest) :
    (scene.state pose world store).pop =
      .ok (value, scene.state { pose with operands := rest } world store) := by
  rw [State.pop, show (scene.state pose world store).operands = value :: rest from stacked]
  rfl

theorem step_pop {value : Value} {rest : List Value} (here : scene.At kind pose.ip .pop)
    (stacked : pose.operands = value :: rest) :
    step scene.environment (scene.state pose world store) = .running
      (scene.state { pose with
        ip := pose.ip + 1, operands := rest, accumulator := value } world store) := by
  rw [here.step_attempt rfl rfl, pop_eq stacked]
  rfl

theorem step_popToSecond {value : Value} {rest : List Value}
    (here : scene.At kind pose.ip .popToSecond) (stacked : pose.operands = value :: rest) :
    step scene.environment (scene.state pose world store) = .running
      (scene.state { pose with
        ip := pose.ip + 1, operands := rest, second := value } world store) := by
  rw [here.step_attempt rfl rfl, pop_eq stacked]
  rfl

/-! ## Slots and output -/

section

variable {slot : Nat} (small : slot < 0x8000000000000000)

include small

/-- A value in a slot of the scene. -/
theorem load_eq : (scene.state pose world store).load slot = world.load slot := by
  show (scene.below ++ world.slots)[slotAt scene.below.length slot]?.getD .nil = _
  rw [slotAt_of_lt _ small, List.getElem?_append_right (Nat.le_add_right _ _),
    Nat.add_sub_cancel_left]
  rfl

theorem save_eq (value : Value) :
    (scene.state pose world store).save slot value =
      scene.state pose (world.save slot value) store := by
  have written : setSlot (scene.below ++ world.slots) (slotAt scene.below.length slot) value =
      scene.below ++ setSlot world.slots slot value := by
    rw [slotAt_of_lt _ small, setSlot_append]
  unfold State.save state
  rw [written]
  rfl

theorem items_eq {items : List Value} (held : world.load slot = .list items) :
    (scene.state pose world store).items slot = items := by
  rw [State.items, load_eq small, held]

end

theorem step_loadLocal {slot : Nat} (here : scene.At kind pose.ip (.loadLocal slot)) :
    step scene.environment (scene.state pose world store) = .running
      (scene.state { pose with ip := pose.ip + 1, accumulator := world.load slot } world store) := by
  rw [here.step_change rfl, load_eq (here.narrow slot List.mem_cons_self)]
  rfl

theorem step_saveLocal {slot : Nat} (here : scene.At kind pose.ip (.saveLocal slot)) :
    step scene.environment (scene.state pose world store) = .running
      (scene.state { pose with ip := pose.ip + 1 } (world.save slot pose.accumulator) store) := by
  rw [here.step_change rfl, save_eq (here.narrow slot List.mem_cons_self)]
  rfl

theorem write_eq (text : String) :
    (scene.state pose world store).write text = scene.state pose (world.write text) store := by
  obtain ⟨sink, operands, marks, ip, accumulator, second⟩ := pose
  cases sink with
  | output => rfl
  | capture outer shown => rfl

theorem step_printRaw (here : scene.At kind pose.ip .printRaw) :
    step scene.environment (scene.state pose world store) = .running
      (scene.state { pose with ip := pose.ip + 1 } (world.write pose.accumulator.display)
        store) := by
  rw [here.step_change rfl, write_eq]
  rfl

theorem step_printText {text : String} (here : scene.At kind pose.ip (.printText text)) :
    step scene.environment (scene.state pose world store) = .running
      (scene.state { pose with ip := pose.ip + 1 } (world.write text) store) := by
  rw [here.step_change rfl, write_eq]
  rfl

theorem step_noop (here : scene.At kind pose.ip .noop) :
    step scene.environment (scene.state pose world store) = .running
      (scene.state { pose with ip := pose.ip + 1 } world store) :=
  here.step_change rfl

theorem printAccumulator_eq :
    printAccumulator (scene.state pose world store) =
      scene.state pose (world.print scene.context pose.accumulator) store := by
  have held : (scene.state pose world store).accumulator = pose.accumulator := rfl
  unfold printAccumulator World.print
  rw [held]
  cases pose.accumulator with
  | nil => rfl
  | _ => exact write_eq _

theorem step_print (here : scene.At kind pose.ip .print) :
    step scene.environment (scene.state pose world store) = .running
      (scene.state { pose with ip := pose.ip + 1 }
        (world.print scene.context pose.accumulator) store) := by
  rw [here.step_change rfl, printAccumulator_eq]
  rfl

theorem step_beginCapture (here : scene.At kind pose.ip .beginCapture) :
    step scene.environment (scene.state pose world store) = .running
      (scene.state { pose with
          ip := pose.ip + 1
          sink := .capture (pose.sink.captures world.written) (pose.sink.shown world.written) }
        { world with written := "" } store) :=
  here.step_change rfl

theorem step_endCapture {outer : Sink} {written : String}
    (here : scene.At kind pose.ip .endCapture)
    (capturing : pose.sink = .capture (outer.captures written) (outer.shown written)) :
    step scene.environment (scene.state pose world store) = .running
      (scene.state { pose with
          ip := pose.ip + 1, sink := outer, accumulator := .raw world.written }
        { world with written := written } store) := by
  obtain ⟨sink, operands, marks, ip, accumulator, second⟩ := pose
  obtain rfl : sink = _ := capturing
  rw [here.step_attempt rfl rfl]
  rfl

/-! ## Jumps -/

theorem jump_eq {offset : Int} {target : Nat} (reached : (pose.ip : Int) + offset = target)
    (inside : target < scene.activation.ops.size) :
    jump (scene.state pose world store) offset =
      .running (scene.state { pose with ip := target } world store) := by
  have landed : jumpTarget? pose.ip offset = some target := by
    rw [jumpTarget?, reached, if_neg (Int.not_lt.mpr (Int.natCast_nonneg target)),
      Int.toNat_natCast]
  rw [jump, show jumpTarget? (scene.state pose world store).current.ip offset = some target from
    landed]
  exact if_pos inside

theorem step_goto {offset : Int} {target : Nat} (here : scene.At kind pose.ip (.goto offset))
    (reached : (pose.ip : Int) + offset = target) (inside : target < scene.activation.ops.size) :
    step scene.environment (scene.state pose world store) = .running
      (scene.state { pose with ip := target } world store) := by
  rw [here.step_transfer rfl rfl, transfer, jump_eq reached inside]

/-- A conditional jump goes on behind itself or at its target. -/
theorem jumpIf_eq {condition : Bool} {offset : Int} {target : Nat}
    (reached : (pose.ip : Int) + offset = target) (inside : target < scene.activation.ops.size) :
    jumpIf (scene.state pose world store) condition offset = .running (scene.state
      { pose with ip := if condition then target else pose.ip + 1 } world store) := by
  cases condition with
  | true => exact jump_eq reached inside
  | false => rfl

/-- Every conditional jump decides by the accumulator. -/
theorem step_jumpIf {op : Op} {offset : Int} {target : Nat} (decides : Value → Bool)
    (here : scene.At kind pose.ip op) (unchanging : change? scene.environment op = none)
    (attemptless : attempt? scene.environment op = none)
    (jumps : ∀ state : State τ, transfer scene.environment state op =
      jumpIf state (decides state.accumulator) offset)
    (reached : (pose.ip : Int) + offset = target) (inside : target < scene.activation.ops.size) :
    step scene.environment (scene.state pose world store) = .running (scene.state
      { pose with ip := if decides pose.accumulator then target else pose.ip + 1 }
      world store) := by
  rw [here.step_transfer unchanging attemptless, jumps]
  exact jumpIf_eq reached inside

theorem step_jumpIfFalse {offset : Int} {target : Nat}
    (here : scene.At kind pose.ip (.jumpIfFalse offset))
    (reached : (pose.ip : Int) + offset = target) (inside : target < scene.activation.ops.size) :
    step scene.environment (scene.state pose world store) = .running (scene.state
      { pose with ip := if !pose.accumulator.isTruthy then target else pose.ip + 1 }
      world store) :=
  step_jumpIf (fun value => !value.isTruthy) here rfl rfl (fun _ => rfl) reached inside

end Stencil.Machine.Scene

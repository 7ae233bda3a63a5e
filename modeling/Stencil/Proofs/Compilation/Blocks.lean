import Stencil.Proofs.Compilation.Schemes
import Stencil.Proofs.Meaning.Slots

/-!
# Code of statements

The schemes by which the code of statements is put together: prints, branches, loops and captures.
-/

namespace Stencil.Machine.Scene

open Meaning (Action World Keeps change captured forRounds whileRounds)

variable {σ τ : Type} {scene : Scene σ τ} {kind : State τ → Prop}

theorem performs_nil : scene.Performs [] (pure ()) := by
  intro kind _ pose world store stop laid related
  obtain ⟨rfl, _⟩ := laid
  exact .done ⟨_, _, store, rfl, related⟩

theorem Performs.append {first second : List Op} {action further : Action σ Unit}
    (performs : scene.Performs first action) (performs' : scene.Performs second further) :
    scene.Performs (first ++ second) (do action; further) := by
  intro kind deep pose world store stop whole related
  obtain ⟨_, laid, laid'⟩ := laid_append.mp whole
  refine (performs deep laid related).bind ?_
  rintro _ after _ ⟨_, _, store, rfl, related⟩
  refine (performs' deep laid' related).mono ?_
  rintro _ after last ⟨accumulator, second, store, rfl, related⟩
  exact ⟨accumulator, second, store, rfl, related⟩

theorem Computes.discard {spared : Bool} {code : List Op} {action : Action σ Value}
    (computes : scene.Computes spared code action) :
    scene.Performs code (do let _ ← action) := by
  intro kind deep pose world store stop laid related
  refine (computes deep laid related).bind ?_
  rintro value after _ ⟨second, store, rfl, related, _⟩
  exact .done ⟨value, second, store, rfl, related⟩

theorem Computes.print {spared : Bool} {code : List Op} {action : Action σ Value}
    (computes : scene.Computes spared code action) :
    scene.Performs (code ++ [.print]) (do
      let value ← action
      change (·.print scene.context value)) := by
  intro kind deep pose world store stop whole related
  obtain ⟨_, laid, here, rfl, _⟩ := laid_append.mp whole
  refine (computes deep laid related).bind ?_
  rintro value after _ ⟨second, store, rfl, related, _⟩
  refine .here here (step_print here) (.done ⟨value, second, store, rfl, ?_⟩)
  rw [World.store_print]
  exact related

theorem performs_text (text : String) :
    scene.Performs [.literal (.text text), .printRaw] (change (·.write text)) := by
  intro kind _ pose world store stop whole related
  obtain ⟨literal, print, rfl, _⟩ := whole
  refine .here literal (step_literal literal) ?_
  exact .here print (step_printRaw print) (.done ⟨_, _, store, rfl, related⟩)

/-- The fused print leaves the accumulator alone, which nothing after it reads. -/
theorem performs_fused (text : String) :
    scene.Performs [.printText text, .noop] (change (·.write text)) := by
  intro kind _ pose world store stop whole related
  obtain ⟨print, gap, rfl, _⟩ := whole
  refine .here print (step_printText print) ?_
  exact .here gap (step_noop gap) (.done ⟨_, _, store, rfl, related⟩)

/-! ## Branches -/

theorem Computes.branches {spared : Bool} {condition positive negative : List Op}
    {test : Action σ Value} {first second : Action σ Unit} (single : Bool)
    (computes : scene.Computes spared condition test) (performs : scene.Performs positive first)
    (performs' : scene.Performs negative second) (empty : single = true → second = pure ()) :
    scene.Performs (Generate.branches condition positive negative single) (do
      let value ← test
      if value.isTruthy then first else second) := by
  intro kind deep pose world store stop whole related
  cases single with
  | true =>
      obtain rfl := empty rfl
      obtain ⟨_, front, laid'⟩ := laid_append.mp whole
      obtain ⟨_, laid, jump, rfl, _⟩ := laid_append.mp front
      refine (computes deep laid related).bind ?_
      rintro value after _ ⟨_, store, rfl, related, _⟩
      have reached := laid'.stop_eq
      refine .here jump
        (step_jumpIfFalse jump (show _ = (stop : Int) by dsimp only; omega) laid'.lt_size) ?_
      dsimp only
      cases value.isTruthy with
      | true => exact performs deep laid' related
      | false => exact .done ⟨_, _, store, rfl, related⟩
  | false =>
      obtain ⟨_, before, laid''⟩ := laid_append.mp whole
      obtain ⟨behind, both, past, rfl, _⟩ := laid_append.mp before
      obtain ⟨_, front, laid'⟩ := laid_append.mp both
      obtain ⟨_, laid, jump, rfl, _⟩ := laid_append.mp front
      refine (computes deep laid related).bind ?_
      rintro value after _ ⟨_, store, rfl, related, _⟩
      have reached := laid'.stop_eq
      have ended := laid''.stop_eq
      have inside := laid''.lt_size
      refine .here jump (step_jumpIfFalse jump
        (show _ = ((behind + 1 : Nat) : Int) by dsimp only; omega) (by omega)) ?_
      dsimp only
      cases value.isTruthy with
      | true =>
          refine (performs deep laid' related).onward ?_
          rintro _ after _ ⟨_, _, store, rfl, related⟩
          refine .here past (step_goto past (show _ = (stop : Int) by dsimp only; omega) inside) ?_
          exact .done ⟨_, _, store, rfl, related⟩
      | false => exact performs' deep laid'' related

/-! ## Loops -/

theorem step_forStart {pose : Pose} {world : World σ} {store : τ} {slot : Nat}
    (here : scene.At kind pose.ip (.forStart slot)) :
    step scene.environment (scene.state pose world store) = .running
      (scene.state { pose with ip := pose.ip + 1, accumulator := .nil }
        (((world.save slot .nil).save (slot + 1) (.int (-1))).save (slot + 2)
          (.list (Meaning.itemsOf pose.accumulator))) store) := by
  have started : startLoop (scene.state pose world store) slot =
      (((((scene.state { pose with accumulator := .nil } world store).save slot .nil).save
        (slot + 1) (.int (-1))).save (slot + 2)
          (.list (Meaning.itemsOf pose.accumulator)))).advance := rfl
  rw [here.step_change rfl, started, save_eq (here.narrow slot (by simp [Op.slots])),
    save_eq (here.narrow (slot + 1) (by simp [Op.slots])),
    save_eq (here.narrow (slot + 2) (by simp [Op.slots]))]
  rfl

/-- The slots beside the element of a loop hold its index and its list. -/
structure Looping (world : World σ) (slot : Nat) (items : List Value) (last : Int64) : Prop where
  index : (world.load (slot + 1)).toInteger = last.toInt
  list : world.load (slot + 2) = .list items

theorem step_forNext {pose : Pose} {world : World σ} {store : τ} {slot max : Nat} {exit : Int}
    {last : Int64} {items : List Value} (here : scene.At kind pose.ip (.forNext slot max exit))
    (looping : Looping world slot items last) :
    step scene.environment (scene.state pose world store) =
      match items[(last + 1).toInt.toNat]? with
      | some item =>
          if max ≤ (last + 1).toInt.toNat then
            jump (scene.state pose
              (world.warn (.forStopped scene.context.template max)) store) exit
          else .running (scene.state { pose with ip := pose.ip + 1 }
            ((world.save slot item).save (slot + 1) (.int (last + 1))) store)
      | none => jump (scene.state pose world store) exit := by
  have small := here.narrow slot (by simp [Op.slots])
  have small₁ := here.narrow (slot + 1) (by simp [Op.slots])
  have small₂ := here.narrow (slot + 2) (by simp [Op.slots])
  rw [here.step_transfer rfl rfl, transfer, nextElement, items_eq small₂ looping.list,
    load_eq small₁, looping.index, Int64.ofInt_toInt]
  cases items[(last + 1).toInt.toNat]? with
  | none => rfl
  | some item =>
      dsimp only
      rw [save_eq small, save_eq small₁]
      rfl

/-- Where a loop over a list seeks its next element, with the rest of the loop behind. -/
structure ForLayout (scene : Scene σ τ) (kind : State τ → Prop) (ip slot max : Nat) (body : List Op)
    (stop : Nat) : Prop where
  next : scene.At kind ip (.forNext slot max (body.length + 2))
  inner : scene.Laid kind (ip + 1) body (ip + 1 + body.length)
  back : scene.At kind (ip + 1 + body.length) (.goto (-(body.length + 1 : Int)))
  after : stop = ip + (body.length + 2)
  inside : stop < scene.activation.ops.size

theorem ForLayout.follows {kind : State τ → Prop} {ip slot max stop : Nat} {body : List Op}
    {action : Action σ Unit} {items : List Value}
    (layout : ForLayout scene kind ip slot max body stop) (deep : scene.Deep kind)
    (performs : scene.Performs body action) (keeps : Keeps (slot + 1) action)
    (keeps' : Keeps (slot + 2) action) {rounds : Nat} (few : rounds ≤ scene.rounds) {last : Int64}
    {pose : Pose} {world : World σ} {store : τ} (here : pose.ip = ip)
    (looping : Looping world slot items last) (related : scene.related world.store store) :
    scene.Follows rounds kind pose.sink (scene.state pose world store)
      (forRounds scene.context slot max items action rounds last world) fun _ after last =>
        ∃ accumulator second store',
          last = scene.state { pose with ip := stop, accumulator, second } after store' ∧
          scene.related after.store store' := by
  have inside := layout.inside
  have reached : (ip : Int) + (body.length + 2) = (stop : Nat) := by
    have := layout.after
    omega
  induction rounds generalizing pose world store last with
  | zero => exact ⟨0, _, Nat.le_refl 0, .here _⟩
  | succ rounds ih =>
      obtain rfl := here
      have stepped := @step_forNext _ _ _ _ pose world store _ _ _ _ _ layout.next looping
      have entered := layout.next.inside pose world store rfl
      unfold forRounds
      dsimp only
      cases found : items[(last + 1).toInt.toNat]? with
      | none =>
          rw [found] at stepped
          refine .tick entered (stepped.trans (jump_eq reached inside)) (.done ?_)
          exact ⟨_, _, store, rfl, related⟩
      | some item =>
          rw [found] at stepped
          dsimp only at stepped ⊢
          by_cases past : max ≤ (last + 1).toInt.toNat
          · rw [if_pos past] at stepped ⊢
            refine .tick entered (stepped.trans (jump_eq reached inside)) (.done ?_)
            exact ⟨_, _, store, rfl, related⟩
          · rw [if_neg past] at stepped ⊢
            refine .tick entered stepped ?_
            have saved : Looping ((world.save slot item).save (slot + 1)
                (.int (last + 1))) slot items (last + 1) := by
              constructor
              · rw [World.load_save_self]
                rfl
              · rw [World.load_save_other (by omega), World.load_save_other (by omega)]
                exact looping.list
            have round := @performs kind deep { pose with ip := pose.ip + 1 }
              ((world.save slot item).save (slot + 1) (.int (last + 1))) store _
              layout.inner related
            refine (round.acted.lower (by omega)).bind ?_
            rintro _ after _ ⟨acted, _, second, store, rfl, related⟩
            refine .here layout.back
              (step_goto layout.back (show _ = ((pose.ip : Nat) : Int) by dsimp only; omega)
                (by omega)) ?_
            refine ih (by omega) rfl ?_ related
            exact ⟨(keeps _ _ _ acted).symm ▸ saved.index, (keeps' _ _ _ acted).symm ▸ saved.list⟩

theorem Computes.forLoop {spared : Bool} {source body : List Op} {list : Action σ Value}
    {action : Action σ Unit} {slot : Nat} (max : Nat)
    (computes : scene.Computes spared source list) (performs : scene.Performs body action)
    (keeps : Keeps (slot + 1) action) (keeps' : Keeps (slot + 2) action) :
    scene.Performs (Generate.forLoop source body slot max) (do
      let value ← list
      Meaning.forAll scene.context slot max (Meaning.itemsOf value) action scene.rounds) := by
  intro kind deep pose world store stop whole related
  obtain ⟨behind, both, back, ended, inside⟩ := laid_append.mp whole
  obtain ⟨_, front, inner⟩ := laid_append.mp both
  obtain ⟨start, laid, begin, next, rfl, _⟩ := laid_append.mp front
  have reached := inner.stop_eq
  obtain rfl : behind = start + 1 + 1 + body.length := reached
  refine (computes deep laid related).bind ?_
  rintro value after _ ⟨second, store, rfl, related, _⟩
  refine .here begin (step_forStart begin) ?_
  have layout : ForLayout scene kind (start + 1) slot max body stop :=
    ⟨next, inner, back, by omega, by omega⟩
  refine layout.follows deep performs keeps keeps' (Nat.le_refl _) rfl ?_ related
  constructor
  · rw [World.load_save_other (by omega), World.load_save_self]
    rfl
  · exact World.load_save_self

theorem step_loopGuard {pose : Pose} {world : World σ} {store : τ} {slot max : Nat} {last : Int64}
    (here : scene.At kind pose.ip (.loopGuard slot max))
    (counted : (world.load slot).toInteger = last.toInt) (within : Bool)
    (decided : within = decide (0 ≤ (last + 1).toInt ∧ (last + 1).toInt ≤ max)) :
    step scene.environment (scene.state pose world store) = .running
      (scene.state { pose with ip := pose.ip + 1, accumulator := .bool within }
        (if within then world.save slot (.int (last + 1))
          else (world.save slot (.int (last + 1))).warn
            (.whileStopped scene.context.template max)) store) := by
  have small := here.narrow slot List.mem_cons_self
  rw [here.step_change rfl, guardLoop, load_eq small, counted, Int64.ofInt_toInt,
    ← Bool.decide_and, ← decided]
  rw [save_eq small]
  cases within with
  | true => rfl
  | false => rfl

/-- Where the condition of a conditional loop begins, with the rest of the loop behind. -/
structure WhileLayout (scene : Scene σ τ) (kind : State τ → Prop) (ip slot max : Nat)
    (condition body : List Op) (stop : Nat) : Prop where
  test : scene.Laid kind ip condition (ip + condition.length)
  leave : scene.At kind (ip + condition.length) (.jumpIfFalse (body.length + 4))
  count : scene.At kind (ip + condition.length + 1) (.loopGuard slot max)
  past : scene.At kind (ip + condition.length + 2) (.jumpIfFalse (body.length + 2))
  inner : scene.Laid kind (ip + condition.length + 3) body (ip + condition.length + 3 + body.length)
  back : scene.At kind (ip + condition.length + 3 + body.length)
    (.goto (-(condition.length + 3 + body.length : Int)))
  after : stop = ip + condition.length + (body.length + 4)
  inside : stop < scene.activation.ops.size

theorem WhileLayout.follows {kind : State τ → Prop} {ip slot max stop : Nat} {spared : Bool}
    {condition body : List Op} {test : Action σ Value} {action : Action σ Unit}
    (layout : WhileLayout scene kind ip slot max condition body stop) (deep : scene.Deep kind)
    (computes : scene.Computes spared condition test) (performs : scene.Performs body action)
    (keeps : Keeps slot test) (keeps' : Keeps slot action) {rounds : Nat}
    (few : rounds ≤ scene.rounds) {last : Int64} {pose : Pose} {world : World σ} {store : τ}
    (here : pose.ip = ip) (counted : (world.load slot).toInteger = last.toInt)
    (related : scene.related world.store store) :
    scene.Follows rounds kind pose.sink (scene.state pose world store)
      (whileRounds scene.context slot max test action rounds last world) fun _ after last =>
        ∃ accumulator second store',
          last = scene.state { pose with ip := stop, accumulator, second } after store' ∧
          scene.related after.store store' := by
  have inside := layout.inside
  have after := layout.after
  induction rounds generalizing pose world store last with
  | zero => exact ⟨0, _, Nat.le_refl 0, .here _⟩
  | succ rounds ih =>
      obtain rfl := here
      refine ((computes deep layout.test related).acted.lower few).bind ?_
      rintro value between _ ⟨acted, second, store, rfl, related, _⟩
      have counted := (keeps _ _ _ acted).symm ▸ counted
      refine .tick (layout.leave.inside _ _ _ rfl) (step_jumpIfFalse layout.leave
        (show _ = (stop : Int) by dsimp only; omega) inside) ?_
      dsimp only
      cases value.isTruthy with
      | false => exact .done ⟨_, _, store, rfl, related⟩
      | true =>
          show scene.Follows rounds kind pose.sink
            (scene.state { pose with
              ip := pose.ip + condition.length + 1, accumulator := value, second } between store)
            ((do
              Meaning.save slot (.int (last + 1))
              if 0 ≤ (last + 1).toInt ∧ (last + 1).toInt ≤ max then
                action
                whileRounds scene.context slot max test action rounds (last + 1)
              else change (·.warn (.whileStopped scene.context.template max))) between) _
          by_cases within : 0 ≤ (last + 1).toInt ∧ (last + 1).toInt ≤ max
          · rw [if_pos within]
            refine .here layout.count
              (step_loopGuard layout.count counted true (decide_eq_true within).symm) ?_
            refine .here layout.past (step_jumpIfFalse layout.past
              (show _ = (stop : Int) by dsimp only; omega) inside) ?_
            have round := @performs kind deep
              { pose with ip := pose.ip + condition.length + 3, accumulator := .bool true, second }
              (between.save slot (.int (last + 1))) store _ layout.inner related
            refine (round.acted.lower (by omega)).bind ?_
            rintro _ after _ ⟨acted, _, second, store, rfl, related⟩
            refine .here layout.back
              (step_goto layout.back (show _ = ((pose.ip : Nat) : Int) by dsimp only; omega)
                (by omega)) ?_
            refine ih (by omega) rfl ?_ related
            rw [keeps' _ _ _ acted, World.load_save_self]
            rfl
          · rw [if_neg within]
            refine .here layout.count
              (step_loopGuard layout.count counted false (decide_eq_false within).symm) ?_
            refine .here layout.past (step_jumpIfFalse layout.past
              (show _ = (stop : Int) by dsimp only; omega) inside) ?_
            exact .done ⟨_, _, store, rfl, related⟩

theorem Computes.whileLoop {spared : Bool} {condition body : List Op} {test : Action σ Value}
    {action : Action σ Unit} {slot : Nat} (max : Nat)
    (computes : scene.Computes spared condition test) (performs : scene.Performs body action)
    (keeps : Keeps slot test) (keeps' : Keeps slot action) :
    scene.Performs (Generate.whileLoop condition body slot max)
      (Meaning.whileTrue scene.context slot max test action scene.rounds) := by
  intro kind deep pose world store stop whole related
  obtain ⟨behind, both, back, ended, inside⟩ := laid_append.mp whole
  obtain ⟨_, front, inner⟩ := laid_append.mp both
  obtain ⟨_, before, leave, count, past, rfl, _⟩ := laid_append.mp front
  obtain ⟨ip, ⟨literal, save, rfl, _⟩, laid⟩ := laid_append.mp before
  obtain rfl := laid.stop_eq
  obtain rfl := inner.stop_eq
  refine .here literal (step_literal literal) ?_
  refine .here save (step_saveLocal save) ?_
  have layout : WhileLayout scene kind (pose.ip + 1 + 1) slot max condition body stop :=
    ⟨laid, leave, count, past, inner, back, by omega, by omega⟩
  exact layout.follows deep computes performs keeps keeps' (Nat.le_refl _) rfl
    (by rw [World.load_save_self]; rfl) related

end Stencil.Machine.Scene

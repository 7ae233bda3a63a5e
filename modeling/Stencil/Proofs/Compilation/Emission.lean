import Mathlib
import Stencil.Proofs.Compilation.Composition
import Stencil.Proofs.Results

/-!
# Emitted code

Emitting adds the code that is composed of the parts, whatever the stream has already: each jump is
still where it was added when it is pointed at its target, and gets the distance that it has in the
composed code. Where a node is out of place both fail alike. Otherwise emitting fails only for a
jump that is too far, and that takes a stream of two to the thirty-one instructions.
-/

namespace Stencil

open Generate (Result isNear relative sparesSecond filterOp unaryOp binaryOp)

theorem Op.jump?_of_withJump? {op pointed : Op} {offset : Int}
    (points : op.withJump? offset = some pointed) : pointed.jump? = some offset := by
  cases op <;> cases points <;> rfl

/-- No jump is too far. -/
def Near (code : List Op) : Prop :=
  ∀ op ∈ code, ∀ offset, op.jump? = some offset → isNear offset = true

/-! ## Numbers of instructions -/

namespace Node

mutual

/-- How many instructions compute the value of a node. There are none for a statement. -/
def valueLength : Node → Nat
  | .int .. | .uint .. | .float .. | .string .. | .bool .. | .nil _ | .localVar .. | .symbol ..
  | .loopVar .. => 1
  | .field _ operand _ | .filter _ operand _ | .unary _ _ operand | .assign _ _ _ operand =>
      valueLength operand + 1
  | .index _ container position => valueLength container + valueLength position + 4
  | .methodCall _ invocant _ arguments => valueLength invocant + pushedLength arguments + 3
  | .functionCall _ _ nodes | .macroCall _ _ nodes | .list _ nodes => pushedLength nodes + 2
  | .binary _ .and left right | .binary _ .or left right => valueLength left + valueLength right + 1
  | .binary _ _ left right | .range _ left right =>
      valueLength left + valueLength right + if sparesSecond right then 2 else 3
  | _ => 0

def pushedLength : List Node → Nat
  | [] => 0
  | first :: rest => valueLength first + pushedLength rest + 1

def bindingsLength : List (String × Node) → Nat
  | [] => 0
  | (_, first) :: rest => valueLength first + bindingsLength rest + 3

end

/-- How many instructions bring the name of a template and bindings into the registers. -/
def targetLength (template : Node) (bound : List (String × Node)) : Nat :=
  valueLength template + (if bound.isEmpty then 1 else bindingsLength bound + 2) + 3

mutual

/-- How many instructions there are for a node inside a block. There are none for a macro. -/
def statementLength : Node → Nat
  | .text .. => 2
  | .print _ operand => valueLength operand + 1
  | .discard _ operand => valueLength operand
  | .conditional _ condition positive negative =>
      valueLength condition + blockLength positive + blockLength negative +
        if negative.isEmpty then 1 else 2
  | .forLoop _ _ _ source body _ => valueLength source + blockLength body + 3
  | .whileLoop _ condition body _ _ => valueLength condition + blockLength body + 6
  | .macroDef .. => 0
  | .inclusion _ template bound => targetLength template bound + 1
  | .wrapper _ template bound body => blockLength body + targetLength template bound + 4
  | other => valueLength other

def blockLength : List Node → Nat
  | [] => 0
  | first :: rest => statementLength first + blockLength rest

end

end Node

namespace Emit

/-! ## Steps -/

section

variable {α β : Type} {emission : Emit α} {next : α → Emit β} {ops ops' : Array Op}

theorem run_bind_of_ok {result : α} (ran : emission.run ops = .ok (result, ops')) :
    (emission >>= next).run ops = (next result).run ops' := by
  rw [StateT.run_bind, ran]
  rfl

theorem run_bind_of_error {error : CompileError} (ran : emission.run ops = .error error) :
    (emission >>= next).run ops = .error error := by
  rw [StateT.run_bind, ran]
  rfl

end

theorem run_add (op : Op) (ops : List Op) :
    (add op).run ops.toArray = .ok ((), (ops ++ [op]).toArray) := by
  simp [add]
  rfl

theorem run_emit (op : Op) (ops : List Op) :
    (emit op).run ops.toArray = .ok (ops.length, (ops ++ [op]).toArray) := by
  simp [emit, add]
  rfl

theorem run_get (ops : Array Op) : (get : Emit (Array Op)).run ops = .ok (ops, ops) :=
  rfl

theorem run_lift_of_ok {α : Type} {computed : Result α} {result : α} (done : computed = .ok result)
    (ops : Array Op) : (liftM computed : Emit α).run ops = .ok (result, ops) := by
  rw [done]
  rfl

theorem run_lift_of_error {α : Type} {computed : Result α} {error : CompileError}
    (failed : computed = .error error) (ops : Array Op) :
    (liftM computed : Emit α).run ops = .error error := by
  rw [failed]
  rfl

/-! ## Distances -/

theorem relative_ahead (source passed : Nat) :
    relative source (source + passed) = if isNear passed then .ok (passed : Int)
      else .error (.jumpTooFar source (source + passed)) := by
  have distance : ((source + passed : Nat) : Int) - source = passed := by omega
  simp only [relative, distance]

theorem relative_back (target passed : Nat) :
    relative (target + passed) target = if isNear (-passed) then .ok (-passed : Int)
      else .error (.jumpTooFar (target + passed) target) := by
  have distance : (target : Int) - (target + passed : Nat) = -passed := by omega
  simp only [relative, distance]

theorem large_of_not_near {distance : Int} (far : isNear distance = false) :
    2 ^ 31 ≤ distance.natAbs := by
  simp only [isNear, Bool.and_eq_false_iff, decide_eq_false_iff_not] at far
  omega

/-! ## Agreement -/

/-- How emitting behind some instructions can come out. -/
inductive Emitted (result : Result (Unit × Array Op)) (before : List Op)
    (composed : Result (List Op)) (size : Nat) : Prop
  | added (code : List Op) (made : composed = .ok code) (sized : code.length = size)
      (ran : result = .ok ((), (before ++ code).toArray))
  | refused (error : CompileError) (failed : composed = .error error)
      (ran : result = .error error)
  | far (source target : Nat) (large : 2 ^ 31 ≤ size)
      (unfit : ∀ code, composed = .ok code → ¬ Near code)
      (ran : result = .error (.jumpTooFar source target))

/-- Emitting adds what is composed, wherever the stream has come to. -/
def Agrees (emission : Emit Unit) (composed : Result (List Op)) (size : Nat) : Prop :=
  ∀ before : List Op, Emitted (emission.run before.toArray) before composed size

section

variable {emission rest : Emit Unit} {composed further : Result (List Op)} {m n size : Nat}
  {before front middle passed : List Op} {op dummy : Op} {jump : Int → Op}

theorem Agrees.congr (agrees : Agrees emission composed m) (same : composed = further)
    (sized : m = n) : Agrees emission further n :=
  same ▸ sized ▸ agrees

theorem agrees_add (op : Op) : Agrees (add op) (pure [op]) 1 :=
  fun before => .added [op] rfl rfl (run_add op before)

theorem agrees_nothing : Agrees (pure ()) (pure []) 0 :=
  fun before => .added [] rfl rfl (by rw [List.append_nil]; rfl)

theorem agrees_throw (error : CompileError) (size : Nat) :
    Agrees (throw error) (.error error) size :=
  fun _ => .refused error rfl rfl

/-- What is emitted first is part of all that is emitted. -/
theorem Agrees.next {whole : List Op → Result (List Op)} (agrees : Agrees emission composed m)
    (within : m ≤ size) (keeps : ∀ code all, whole code = .ok all → code ⊆ all)
    (going : ∀ code, composed = .ok code → code.length = m →
      Emitted (rest.run (middle ++ code).toArray) before (whole code) size) :
    Emitted ((emission >>= fun _ => rest).run middle.toArray) before (composed >>= whole) size := by
  cases agrees middle with
  | added code made sized ran =>
      rw [run_bind_of_ok ran, made]
      exact going code made sized
  | refused error failed ran =>
      exact .refused error (by rw [failed]; rfl) (run_bind_of_error ran)
  | far source target large unfit ran =>
      refine .far source target (large.trans within) (fun all made near => ?_)
        (run_bind_of_error ran)
      obtain ⟨code, first, others⟩ := bind_eq_ok.mp made
      exact unfit code first fun op inside => near op (keeps code all others inside)

/-- The code of two emissions is joined. -/
def joined (first second : Result (List Op)) : Result (List Op) := do
  return (← first) ++ (← second)

theorem Agrees.then (first : Agrees emission composed m) (second : Agrees rest further n) :
    Agrees (do emission; rest) (joined composed further) (m + n) := by
  intro before
  refine first.next (Nat.le_add_right ..) ?_ fun code made sized => ?_
  · intro code all both
    obtain ⟨other, _, ⟨⟩⟩ := bind_eq_ok.mp both
    exact List.subset_append_left ..
  · cases second (before ++ code) with
    | added other made sized' ran =>
        refine .added (code ++ other) (by rw [made]; rfl) ?_ ?_
        · rw [List.length_append, sized, sized']
        · rw [← List.append_assoc]
          exact ran
    | refused error failed ran => exact .refused error (by rw [failed]; rfl) ran
    | far source target large unfit ran =>
        refine .far source target (large.trans (Nat.le_add_left ..)) (fun all made near => ?_) ran
        obtain ⟨other, found, ⟨⟩⟩ := bind_eq_ok.mp made
        exact unfit other found fun op inside => near op (List.mem_append_right _ inside)

/-- A jump is found where it was added, and pointed over all that came after it. -/
theorem Emitted.patch (pointed : ∀ offset, dummy.withJump? offset = some (jump offset))
    (within : passed.length + 1 ≤ size)
    (keeps : ∀ all, composed = .ok all → jump (passed.length + 1) ∈ all)
    (going : Emitted (rest.run (front ++ jump (passed.length + 1) :: passed).toArray) before
      composed size) :
    Emitted ((patchToHere front.length >>= fun _ => rest).run (front ++ dummy :: passed).toArray)
      before composed size := by
  have grown : (front ++ dummy :: passed).toArray.size = front.length + (passed.length + 1) := by
    simp
  have distance := relative_ahead front.length (passed.length + 1)
  cases near : isNear ((passed.length + 1 : Nat) : Int) with
  | true =>
      rw [if_pos near, ← grown] at distance
      have ran : (patchToHere front.length).run (front ++ dummy :: passed).toArray =
          .ok ((), (front ++ jump (passed.length + 1) :: passed).toArray) := by
        unfold patchToHere
        rw [run_bind_of_ok (run_get _), run_bind_of_ok (run_lift_of_ok distance _)]
        have found : (front ++ dummy :: passed).toArray[front.length]? = some dummy := by simp
        simp only [found, Option.bind_some, pointed]
        simp
        rfl
      rw [run_bind_of_ok ran]
      exact going
  | false =>
      rw [if_neg (Bool.eq_false_iff.mp near), ← grown] at distance
      refine .far _ _ ((large_of_not_near near).trans (by omega)) (fun all made fits => ?_)
        (run_bind_of_error ((run_bind_of_ok (run_get _)).trans
          (run_bind_of_error (run_lift_of_error distance _))))
      have fits := fits _ (keeps all made) _ (Op.jump?_of_withJump? (pointed _))
      rw [Nat.cast_add_one] at near
      exact absurd fits (Bool.eq_false_iff.mp near)

theorem Emitted.patch_last (pointed : ∀ offset, dummy.withJump? offset = some (jump offset))
    (within : passed.length + 1 ≤ size)
    (keeps : ∀ all, composed = .ok all → jump (passed.length + 1) ∈ all)
    (going : Emitted (.ok ((), (front ++ jump (passed.length + 1) :: passed).toArray)) before
      composed size) :
    Emitted ((patchToHere front.length).run (front ++ dummy :: passed).toArray) before composed
      size := by
  have patched := @Emitted.patch (pure ()) _ _ _ _ _ _ _ pointed within keeps going
  rwa [bind_pure_unit] at patched

/-- A jump back is added with its distance. -/
theorem Emitted.goto (within : passed.length ≤ size)
    (keeps : ∀ all, composed = .ok all → Op.goto (-passed.length) ∈ all)
    (going : Emitted (rest.run (front ++ passed ++ [Op.goto (-passed.length)]).toArray) before
      composed size) :
    Emitted ((emitGoto front.length >>= fun _ => rest).run (front ++ passed).toArray)
      before composed size := by
  have grown : (front ++ passed).toArray.size = front.length + passed.length := by simp
  have distance := relative_back front.length passed.length
  cases near : isNear (-passed.length) with
  | true =>
      rw [if_pos near, ← grown] at distance
      have ran : (emitGoto front.length).run (front ++ passed).toArray =
          .ok ((), (front ++ passed ++ [Op.goto (-passed.length)]).toArray) := by
        unfold emitGoto
        rw [run_bind_of_ok (run_get _), run_bind_of_ok (run_lift_of_ok distance _), run_add]
      rw [run_bind_of_ok ran]
      exact going
  | false =>
      rw [if_neg (Bool.eq_false_iff.mp near), ← grown] at distance
      refine .far _ _ ((large_of_not_near near).trans (by omega)) (fun all made fits => ?_)
        (run_bind_of_error ((run_bind_of_ok (run_get _)).trans
          (run_bind_of_error (run_lift_of_error distance _))))
      exact absurd (fits _ (keeps all made) _ rfl) (Bool.eq_false_iff.mp near)

/-- An operand that may be passed over. -/
theorem Agrees.skip (pointed : ∀ offset, dummy.withJump? offset = some (jump offset))
    (agrees : Agrees emission composed m) :
    Agrees
      (do
        let place ← emit dummy
        emission
        patchToHere place)
      (do
        let code ← composed
        return jump (code.length + 1) :: code)
      (m + 1) := by
  intro before
  rw [run_bind_of_ok (run_emit _ _)]
  refine agrees.next (Nat.le_succ m) ?_ fun code made sized => ?_
  · rintro code all ⟨⟩
    exact List.subset_cons_self ..
  · rw [List.append_assoc, List.singleton_append]
    refine .patch_last pointed (by omega) ?_ ?_
    · rintro all ⟨⟩
      exact List.mem_cons_self
    · refine .added _ rfl ?_ rfl
      rw [List.length_cons, sized]

/-- Two branches, of which one is passed over. -/
theorem Agrees.choice (first : Agrees emission composed m) (second : Agrees rest further n) :
    Agrees
      (do
        let skipFirst ← emit (.jumpIfFalse 0)
        emission
        let skipSecond ← emit (.goto 0)
        patchToHere skipFirst
        rest
        patchToHere skipSecond)
      (do
        let code ← composed
        let other ← further
        return .jumpIfFalse (code.length + 2) :: code ++ .goto (other.length + 1) :: other)
      (m + n + 2) := by
  intro before
  rw [run_bind_of_ok (run_emit _ _)]
  refine first.next (by omega) ?_ fun code made sized => ?_
  · intro code all both
    obtain ⟨other, _, ⟨⟩⟩ := bind_eq_ok.mp both
    exact fun op inside => List.mem_append_left _ (List.mem_cons_of_mem _ inside)
  rw [run_bind_of_ok (run_emit _ _)]
  have grown : before ++ [Op.jumpIfFalse 0] ++ code ++ [Op.goto 0] =
      before ++ Op.jumpIfFalse 0 :: (code ++ [Op.goto 0]) := by
    simp
  rw [grown]
  have distance : ((code ++ [Op.goto 0]).length : Int) + 1 = code.length + 2 := by
    simp
    omega
  refine .patch (fun _ => rfl) (by simp; omega) ?_ ?_
  · intro all made
    obtain ⟨other, _, ⟨⟩⟩ := bind_eq_ok.mp made
    rw [distance]
    exact List.mem_append_left _ List.mem_cons_self
  rw [distance]
  refine second.next (by omega) ?_ fun other made' sized' => ?_
  · rintro other all ⟨⟩
    exact fun op inside => List.mem_append_right _ (List.mem_cons_of_mem _ inside)
  have grown : before ++ Op.jumpIfFalse (code.length + 2) :: (code ++ [Op.goto 0]) ++ other =
      before ++ Op.jumpIfFalse (code.length + 2) :: code ++ Op.goto 0 :: other := by
    simp
  have there : (before ++ [Op.jumpIfFalse 0] ++ code).length =
      (before ++ Op.jumpIfFalse (code.length + 2) :: code).length := by
    simp
  rw [grown, there]
  refine .patch_last (fun _ => rfl) (by omega) ?_ ?_
  · rintro all ⟨⟩
    exact List.mem_append_right _ List.mem_cons_self
  · refine .added _ rfl ?_ ?_
    · simp
      omega
    · simp

/-- A loop that its first instruction leaves. -/
theorem Agrees.loop (pointed : ∀ offset, dummy.withJump? offset = some (jump offset))
    (agrees : Agrees emission composed m) :
    Agrees
      (do
        let top ← emit dummy
        emission
        emitGoto top
        patchToHere top)
      (do
        let code ← composed
        return jump (code.length + 2) :: code ++ [.goto (-(code.length + 1))])
      (m + 2) := by
  intro before
  rw [run_bind_of_ok (run_emit _ _)]
  refine agrees.next (by omega) ?_ fun code made sized => ?_
  · rintro code all ⟨⟩
    exact fun op inside => List.mem_append_left _ (List.mem_cons_of_mem _ inside)
  have grown : before ++ [dummy] ++ code = before ++ dummy :: code := by simp
  rw [grown]
  have back : (-((dummy :: code).length : Int)) = -(code.length + 1) := by simp
  refine .goto (by simp; omega) ?_ ?_
  · rintro all ⟨⟩
    rw [back]
    exact List.mem_append_right _ List.mem_cons_self
  rw [back, List.append_assoc, List.cons_append]
  have distance (last : Op) : ((code ++ [last]).length : Int) + 1 = code.length + 2 := by
    simp
    omega
  refine .patch_last pointed (by simp; omega) ?_ ?_
  · rintro all ⟨⟩
    rw [distance]
    exact List.mem_append_left _ List.mem_cons_self
  · refine .added _ rfl ?_ ?_
    · simp
      omega
    · rw [distance]
      rfl

/-- A loop that two instructions leave, one before the count of its iterations and one after. -/
theorem Agrees.guarded (first : Agrees emission composed m) (second : Agrees rest further n)
    (guard : Op) :
    Agrees
      (do
        let top := (← get).size
        emission
        let firstExit ← emit (.jumpIfFalse 0)
        add guard
        let secondExit ← emit (.jumpIfFalse 0)
        rest
        emitGoto top
        patchToHere firstExit
        patchToHere secondExit)
      (do
        let test ← composed
        let code ← further
        return test ++ [.jumpIfFalse (code.length + 4), guard, .jumpIfFalse (code.length + 2)] ++
          code ++ [.goto (-(test.length + 3 + code.length))])
      (m + n + 4) := by
  intro before
  rw [run_bind_of_ok (run_get _), List.size_toArray]
  refine first.next (by omega) ?_ fun test made sized => ?_
  · intro test all both
    obtain ⟨code, _, ⟨⟩⟩ := bind_eq_ok.mp both
    intro op inside
    simp [inside]
  rw [run_bind_of_ok (run_emit _ _), run_bind_of_ok (run_add _ _), run_bind_of_ok (run_emit _ _)]
  refine second.next (by omega) ?_ fun code made' sized' => ?_
  · rintro code all ⟨⟩
    intro op inside
    simp [inside]
  -- Back to the top.
  have grown : before ++ test ++ [Op.jumpIfFalse 0] ++ [guard] ++ [Op.jumpIfFalse 0] ++ code =
      before ++ (test ++ Op.jumpIfFalse 0 :: guard :: Op.jumpIfFalse 0 :: code) := by
    simp
  have back : (-((test ++ Op.jumpIfFalse 0 :: guard :: Op.jumpIfFalse 0 :: code).length : Int)) =
      -(test.length + 3 + code.length) := by
    simp
    omega
  rw [grown]
  refine .goto (by simp; omega) ?_ ?_
  · rintro all ⟨⟩
    rw [back]
    simp
  rw [back]
  generalize Op.goto (-(test.length + 3 + code.length)) = repetition
  -- The exit at the condition.
  have grown : before ++ (test ++ Op.jumpIfFalse 0 :: guard :: Op.jumpIfFalse 0 :: code) ++
      [repetition] =
        before ++ test ++ Op.jumpIfFalse 0 ::
          (guard :: Op.jumpIfFalse 0 :: code ++ [repetition]) := by
    simp
  have distance : ((guard :: Op.jumpIfFalse 0 :: code ++ [repetition]).length : Int) + 1 =
      code.length + 4 := by
    simp
    omega
  rw [grown]
  refine .patch (fun _ => rfl) (by simp; omega) ?_ ?_
  · rintro all ⟨⟩
    rw [distance]
    simp
  rw [distance]
  -- The exit at the guard.
  have grown : before ++ test ++ Op.jumpIfFalse (code.length + 4) ::
      (guard :: Op.jumpIfFalse 0 :: code ++ [repetition]) =
        before ++ test ++ [Op.jumpIfFalse (code.length + 4), guard] ++
          Op.jumpIfFalse 0 :: (code ++ [repetition]) := by
    simp
  have there : (before ++ test ++ [Op.jumpIfFalse 0] ++ [guard]).length =
      (before ++ test ++ [Op.jumpIfFalse (code.length + 4), guard]).length := by
    simp
  have distance : ((code ++ [repetition]).length : Int) + 1 = code.length + 2 := by
    simp
    omega
  rw [grown, there]
  refine .patch_last (fun _ => rfl) (by simp; omega) ?_ ?_
  · rintro all ⟨⟩
    rw [distance]
    simp
  · refine .added _ rfl ?_ ?_
    · simp
      omega
    · rw [distance]
      simp

end

/-! ## Nodes -/

open Node (valueLength pushedLength bindingsLength targetLength statementLength blockLength)

theorem agrees_operands {left right : Emit Unit} {first second : Result (List Op)} {m n : Nat}
    (agrees : Agrees left first m) (agrees' : Agrees right second n) (spared : Bool) :
    Agrees (operands left right spared) (do return Generate.operands (← first) (← second) spared)
      (m + n + if spared then 1 else 2) := by
  cases spared with
  | true =>
      refine (agrees.then ((agrees_add .moveToSecond).then agrees')).congr ?_ (by simp; omega)
      simp [joined, Generate.operands]
  | false =>
      refine (agrees.then ((agrees_add .push).then (agrees'.then (agrees_add .popToSecond)))).congr
        ?_ (by simp; omega)
      simp [joined, Generate.operands]

theorem agrees_binary {left right : Emit Unit} {first second : Result (List Op)} {m n : Nat}
    (agrees : Agrees left first m) (agrees' : Agrees right second n) (op : Node.BinaryOp)
    (spared : Bool) :
    Agrees (binary op left right spared) (do return Generate.binary op (← first) (← second) spared)
      (match op with
      | .and | .or => m + n + 1
      | _ => m + n + if spared then 2 else 3) := by
  have both := (agrees_operands agrees agrees' spared).then (agrees_add (binaryOp op))
  cases op with
  | and =>
      refine (agrees.then (agrees'.skip fun _ => rfl)).congr ?_ (by simp; omega)
      simp [joined, Generate.binary]
  | or =>
      refine (agrees.then (agrees'.skip fun _ => rfl)).congr ?_ (by simp; omega)
      simp [joined, Generate.binary]
  | _ =>
      refine both.congr ?_ (by cases spared <;> simp)
      simp [joined, Generate.binary, binaryOp]

mutual

theorem agrees_expression : ∀ node : Node,
    Agrees (expression node) (Generate.expression node) (valueLength node)
  | .int .. | .uint .. | .float .. | .string .. | .bool .. | .nil _ | .localVar .. | .symbol ..
  | .loopVar .. => agrees_add _
  | .text .. | .print .. | .discard .. | .conditional .. | .forLoop .. | .whileLoop ..
  | .macroDef .. | .inclusion .. | .wrapper .. => agrees_throw _ _
  | .field _ operand _ | .filter _ operand _ | .unary _ _ operand | .assign _ _ _ operand =>
      (agrees_expression operand).then (agrees_add _)
  | .index _ container position => by
      refine ((agrees_expression container).then ((agrees_add _).then
        ((agrees_expression position).then ((agrees_add _).then ((agrees_add _).then
          (agrees_add _)))))).congr ?_ ?_
      · rw [Generate.expression]
        simp [joined]
      · rw [valueLength]
        omega
  | .methodCall _ invocant _ arguments => by
      refine ((agrees_add _).then ((agrees_expression invocant).then ((agrees_add _).then
        ((agrees_pushed arguments).then (agrees_add _))))).congr ?_ ?_
      · rw [Generate.expression]
        simp [joined]
      · rw [valueLength]
        omega
  | .functionCall _ _ nodes | .macroCall _ _ nodes | .list _ nodes => by
      refine ((agrees_add _).then ((agrees_pushed nodes).then (agrees_add _))).congr ?_ ?_
      · rw [Generate.expression]
        simp [joined]
      · rw [valueLength]
        omega
  | .binary _ op left right => by
      refine (agrees_binary (agrees_expression left) (agrees_expression right) op _).congr rfl ?_
      cases op <;> rfl
  | .range _ first last => by
      refine ((agrees_operands (agrees_expression first) (agrees_expression last) _).then
        (agrees_add _)).congr ?_ ?_
      · rw [Generate.expression]
        simp [joined]
      · rw [valueLength]
        split <;> omega

theorem agrees_pushed : ∀ nodes : List Node,
    Agrees (pushed nodes) (Generate.pushed nodes) (pushedLength nodes)
  | [] => agrees_nothing
  | first :: rest => by
      refine ((agrees_expression first).then ((agrees_add _).then (agrees_pushed rest))).congr ?_ ?_
      · rw [Generate.pushed]
        simp [joined]
      · rw [pushedLength]
        omega

theorem agrees_pushedBindings : ∀ bound : List (String × Node),
    Agrees (pushedBindings bound) (Generate.pushedBindings bound) (bindingsLength bound)
  | [] => agrees_nothing
  | (name, first) :: rest => by
      refine ((agrees_add _).then ((agrees_add _).then ((agrees_expression first).then
        ((agrees_add _).then (agrees_pushedBindings rest))))).congr ?_ ?_
      · rw [Generate.pushedBindings]
        simp [joined]
      · rw [bindingsLength]
        omega

end

theorem agrees_bindings (bound : List (String × Node)) :
    Agrees (bindings bound) (Generate.bindings bound)
      (if bound.isEmpty then 1 else bindingsLength bound + 2) := by
  cases bound with
  | nil => exact agrees_add _
  | cons first rest =>
      refine ((agrees_add _).then ((agrees_pushedBindings (first :: rest)).then
        (agrees_add _))).congr ?_ ?_
      · rw [Generate.bindings]
        simp [joined]
      · simp
        omega

theorem agrees_target (template : Node) (bound : List (String × Node)) :
    Agrees (target template bound) (Generate.target template bound)
      (targetLength template bound) := by
  refine ((agrees_expression template).then ((agrees_add _).then ((agrees_bindings bound).then
    ((agrees_add _).then (agrees_add _))))).congr ?_ ?_
  · rw [Generate.target]
    simp [joined]
  · rw [targetLength]
    omega

mutual

theorem agrees_statement : ∀ node : Node,
    Agrees (statement node) (Generate.statement node) (statementLength node)
  | .text .. => (agrees_add _).then (agrees_add _)
  | .print _ operand => (agrees_expression operand).then (agrees_add _)
  | .discard _ operand => agrees_expression operand
  | .conditional _ condition positive [] => by
      refine ((agrees_expression condition).then
        ((agrees_block positive).skip fun _ => rfl)).congr ?_ ?_
      · have nothing : Generate.block [] = pure [] := rfl
        simp [joined, Generate.statement, nothing, Generate.branches]
      · simp [statementLength, blockLength]
        omega
  | .conditional _ condition positive (first :: rest) => by
      refine ((agrees_expression condition).then
        ((agrees_block positive).choice (agrees_block (first :: rest)))).congr ?_ ?_
      · rw [Generate.statement]
        simp [joined, Generate.branches]
      · simp [statementLength]
        omega
  | .forLoop _ _ _ source body _ => by
      refine ((agrees_expression source).then ((agrees_add _).then
        ((agrees_block body).loop fun _ => rfl))).congr ?_ ?_
      · rw [Generate.statement]
        simp [joined, Generate.forLoop]
      · rw [statementLength]
        omega
  | .whileLoop _ condition body _ _ => by
      refine ((agrees_add _).then ((agrees_add _).then
        ((agrees_expression condition).guarded (agrees_block body) _))).congr ?_ ?_
      · rw [Generate.statement]
        simp [joined, Generate.whileLoop]
      · rw [statementLength]
        omega
  | .macroDef .. => agrees_throw _ _
  | .inclusion _ template bound => (agrees_target template bound).then (agrees_add _)
  | .wrapper _ template bound body => by
      refine ((agrees_add _).then ((agrees_block body).then ((agrees_add _).then
        ((agrees_add _).then ((agrees_target template bound).then (agrees_add _)))))).congr ?_ ?_
      · rw [Generate.statement]
        simp [joined]
      · rw [statementLength]
        omega
  | .int .. | .uint .. | .float .. | .string .. | .bool .. | .nil _ | .localVar .. | .symbol ..
  | .loopVar .. | .field .. | .index .. | .methodCall .. | .functionCall .. | .macroCall ..
  | .filter .. | .unary .. | .binary .. | .assign .. | .list .. | .range .. => agrees_expression _

theorem agrees_block : ∀ nodes : List Node,
    Agrees (block nodes) (Generate.block nodes) (blockLength nodes)
  | [] => agrees_nothing
  | first :: rest => (agrees_statement first).then (agrees_block rest)

end

/-! ## Templates -/

/-- How emitting the nodes of a template can come out. A macro has a stream of its own. -/
inductive Assembled (result : Result (Dictionary MacroCode × Array Op)) (before : List Op)
    (composed : Result (List Op × Dictionary MacroCode)) (nodes : List Node) : Prop
  | added (code : List Op) (macros : Dictionary MacroCode) (made : composed = .ok (code, macros))
      (sized : code.length = blockLength nodes)
      (ran : result = .ok (macros, (before ++ code).toArray))
  | refused (error : CompileError) (failed : composed = .error error)
      (ran : result = .error error)
  | far (source target : Nat) (large : 2 ^ 31 ≤ blockLength nodes)
      (unfit : ∀ code macros, composed = .ok (code, macros) → ¬ Near code)
      (ran : result = .error (.jumpTooFar source target))
  | farInMacro (source target : Nat) {place : Place} {name : String} {parameters : List String}
      {body : List Node} (declared : .macroDef place name parameters body ∈ nodes)
      (large : 2 ^ 31 ≤ blockLength body) (ran : result = .error (.jumpTooFar source target))

section

variable {macros : Dictionary MacroCode} {first : Node} {rest : List Node} {before : List Op}

/-- A macro adds nothing to the stream that it stands in. -/
theorem assembled_macroDef (place : Place) (name : String) (parameters : List String)
    (body : List Node)
    (others : ∀ macros, Assembled ((topLevel macros rest).run before.toArray) before
      (Generate.topLevel macros rest) rest) :
    Assembled ((topLevel macros (.macroDef place name parameters body :: rest)).run before.toArray)
      before (Generate.topLevel macros (.macroDef place name parameters body :: rest))
      (.macroDef place name parameters body :: rest) := by
  rw [topLevel, Generate.topLevel]
  have passed : blockLength (.macroDef place name parameters body :: rest) = blockLength rest :=
    Nat.zero_add _
  cases agrees_block body [] with
  | added code made sized ran =>
      have streamed : stream (block body) = .ok ((), code ++ [.halt]) := by
        rw [stream, ran]
        simp [bind, Except.bind, pure, Except.pure]
      rw [run_bind_of_ok (run_lift_of_ok streamed _), made]
      show Assembled _ _
        (Generate.topLevel (macros.insert name ⟨parameters, code ++ [.halt]⟩) rest) _
      cases others (macros.insert name ⟨parameters, code ++ [.halt]⟩) with
      | added code macros made sized ran => exact .added code macros made (passed ▸ sized) ran
      | refused error failed ran => exact .refused error failed ran
      | far source target large unfit ran => exact .far source target (passed ▸ large) unfit ran
      | farInMacro source target declared large ran =>
          exact .farInMacro source target (List.mem_cons_of_mem _ declared) large ran
  | refused error failed ran =>
      have streamed : stream (block body) = .error error := by
        rw [stream, ran]
        rfl
      refine .refused error ?_ (run_bind_of_error (run_lift_of_error streamed _))
      rw [failed]
      rfl
  | far source target large unfit ran =>
      have streamed : stream (block body) = .error (.jumpTooFar source target) := by
        rw [stream, ran]
        rfl
      exact .farInMacro source target List.mem_cons_self large
        (run_bind_of_error (run_lift_of_error streamed _))

theorem assembled_statement
    (emits : topLevel macros (first :: rest) = do statement first; topLevel macros rest)
    (composes : Generate.topLevel macros (first :: rest) = do
      let code ← Generate.statement first
      let (more, macros) ← Generate.topLevel macros rest
      return (code ++ more, macros))
    (others : ∀ before, Assembled ((topLevel macros rest).run before.toArray) before
      (Generate.topLevel macros rest) rest) :
    Assembled ((topLevel macros (first :: rest)).run before.toArray) before
      (Generate.topLevel macros (first :: rest)) (first :: rest) := by
  rw [emits, composes]
  have counted : blockLength (first :: rest) = statementLength first + blockLength rest := rfl
  cases agrees_statement first before with
  | added code made sized ran =>
      rw [run_bind_of_ok ran, made]
      cases others (before ++ code) with
      | added more macros made' sized' ran =>
          refine .added (code ++ more) macros (by rw [made']; rfl) ?_ ?_
          · rw [List.length_append, sized, sized', counted]
          · rw [← List.append_assoc, ran]
      | refused error failed ran => exact .refused error (by rw [failed]; rfl) ran
      | far source target large unfit ran =>
          refine .far source target (by omega) (fun all macros whole near => ?_) ran
          obtain ⟨_, ⟨⟩, whole⟩ := bind_eq_ok.mp whole
          obtain ⟨⟨more, _⟩, found, ⟨⟩⟩ := bind_eq_ok.mp whole
          exact unfit more _ found fun op inside => near op (List.mem_append_right _ inside)
      | farInMacro source target declared large ran =>
          exact .farInMacro source target (List.mem_cons_of_mem _ declared) large ran
  | refused error failed ran =>
      exact .refused error (by rw [failed]; rfl) (run_bind_of_error ran)
  | far source target large unfit ran =>
      refine .far source target (by omega) (fun all macros whole near => ?_)
        (run_bind_of_error ran)
      obtain ⟨code, found, whole⟩ := bind_eq_ok.mp whole
      obtain ⟨⟨more, _⟩, _, ⟨⟩⟩ := bind_eq_ok.mp whole
      exact unfit code found fun op inside => near op (List.mem_append_left _ inside)

end

theorem assembled_topLevel (macros : Dictionary MacroCode) (nodes : List Node) (before : List Op) :
    Assembled ((topLevel macros nodes).run before.toArray) before (Generate.topLevel macros nodes)
      nodes := by
  induction nodes generalizing macros before with
  | nil => exact .added [] macros rfl rfl (by rw [List.append_nil]; rfl)
  | cons first rest ih =>
      cases first with
      | macroDef => exact assembled_macroDef _ _ _ _ fun macros => ih macros before
      | _ => exact assembled_statement rfl rfl (ih macros)

end Emit

namespace Template

open Emit (Assembled assembled_topLevel)
open Node (blockLength)

variable {template : Template} {ops : List Op} {macros : Dictionary MacroCode}

/-- The code that is composed for a template, if it passes the check. -/
def composed (template : Template) (now : Time) : Except CompileError Code := do
  let (ops, macros) ← Generate.topLevel [] template.nodes
  let code : Code := ⟨template.name, now, ops ++ [.halt], macros⟩
  code.check.mapError .check
  return code

/-- Each stream of a template has, with its end, fewer instructions than a jump can pass. -/
def Short (template : Template) : Prop :=
  blockLength template.nodes + 1 < 2 ^ 31 ∧
    ∀ place name parameters body, .macroDef place name parameters body ∈ template.nodes →
      blockLength body + 1 < 2 ^ 31

/-- Compiling a template yields the composed code, or some jump is too far. -/
theorem compile_cases (template : Template) (now : Time) :
    template.compile now = template.composed now ∨
      (∃ source target, template.compile now = .error (.jumpTooFar source target)) ∧
        ¬ template.Short ∧
        ∀ ops macros, Generate.topLevel [] template.nodes = .ok (ops, macros) → Near ops →
          ∃ place name parameters body, .macroDef place name parameters body ∈ template.nodes := by
  have failed {error : CompileError}
      (ran : (Emit.topLevel [] template.nodes).run #[] = .error error) :
      template.compile now = .error error := by
    rw [compile, Emit.stream, ran]
    rfl
  cases assembled_topLevel [] template.nodes [] with
  | added code macros made sized ran =>
      left
      rw [compile, composed, Emit.stream, ran, made]
      simp only [List.nil_append, List.push_toArray, bind, Except.bind, pure, Except.pure]
  | refused error misplaced ran =>
      left
      rw [failed ran, composed, misplaced]
      rfl
  | far source target large unfit ran =>
      refine .inr ⟨⟨source, target, failed ran⟩, fun short => ?_, fun ops macros made near => ?_⟩
      · have := short.1
        omega
      · exact absurd near (unfit ops macros made)
  | farInMacro source target declared large ran =>
      refine .inr ⟨⟨source, target, failed ran⟩, fun short => ?_,
        fun _ _ _ _ => ⟨_, _, _, _, declared⟩⟩
      have := short.2 _ _ _ _ declared
      omega

/-- The counted instructions are those that there are. -/
theorem length_of_compile {now : Time} {code : Code}
    (compiled : template.compile now = .ok code) :
    code.ops.length = blockLength template.nodes + 1 := by
  obtain ⟨_, streamed, further⟩ := bind_eq_ok.mp compiled
  obtain ⟨_, ran, ⟨⟩⟩ := bind_eq_ok.mp streamed
  obtain ⟨_, _, ⟨⟩⟩ := bind_eq_ok.mp further
  cases assembled_topLevel [] template.nodes [] with
  | added ops macros made sized ran' =>
      cases ran.symm.trans ran'
      simp [sized]
  | refused error misplaced ran' => cases ran.symm.trans ran'
  | far source target large unfit ran' => cases ran.symm.trans ran'
  | farInMacro source target declared large ran' => cases ran.symm.trans ran'

theorem compile_of_short (short : template.Short) (now : Time) :
    template.compile now = template.composed now :=
  (template.compile_cases now).resolve_right fun far => far.2.1 short

theorem composed_of_compile {now : Time} {code : Code}
    (compiled : template.compile now = .ok code) : template.composed now = .ok code := by
  obtain same | ⟨⟨source, target, failed⟩, _⟩ := template.compile_cases now
  · rw [← same, compiled]
  · cases compiled.symm.trans failed

end Template

end Stencil

import Stencil.Proofs.Code.Checked
import Stencil.Proofs.Compilation.Pairs
import Stencil.Proofs.Machine.Slots
import Stencil.Proofs.Template.Pages

/-!
# Templates of one tag, compiled

A template that prints an expression whose code neither jumps nor uses slots is compiled to that
code, a print and the end, whether prints are fused or not.
-/

namespace Stencil

/-- Code without jumps and slots. -/
def Straight (code : List Op) : Prop :=
  ∀ op ∈ code, op.jump? = none ∧ op.slots = []

theorem straight_single {op : Op} (still : op.jump? = none) (slotless : op.slots = []) :
    Straight [op] :=
  List.forall_mem_singleton.mpr ⟨still, slotless⟩

theorem Straight.append {code more : List Op} (straight : Straight code)
    (further : Straight more) : Straight (code ++ more) :=
  List.forall_mem_append.mpr ⟨straight, further⟩

theorem Straight.narrow {code : List Op} (straight : Straight code) : ∀ op ∈ code, op.Narrow := by
  intro op inside slot used
  rw [(straight op inside).2] at used
  cases used

theorem Straight.near {code : List Op} (straight : Straight code) : Near code := by
  intro op inside offset jumps
  cases (straight op inside).1.symm.trans jumps

theorem Straight.contained {code : List Op} (straight : Straight code)
    (halts : code.getLast? = some .halt) : Contained code := by
  refine ⟨halts, ?_⟩
  intro place op offset found jumps
  cases (straight op (List.mem_of_getElem? found)).1.symm.trans jumps

theorem fuse_of_not_mem {code : List Op} (unprinted : .printRaw ∉ code) : fuse code = code :=
  (streamFused_fuse code).fused.eq_of_none fun _ _ pair =>
    unprinted (List.mem_of_getElem? pair.print)

/-- The code of a template that prints an expression. -/
def printing (name : String) (now : Time) (ops : List Op) : Code :=
  ⟨name, now, ops ++ [.print, .halt], []⟩

section

variable {name source : String} {place : Place} {node : Node} {ops : List Op}
  (generated : Generate.expression node = .ok ops) (straight : Straight ops)

theorem straight_printing (straight : Straight ops) : Straight (ops ++ [.print, .halt]) :=
  straight.append ((straight_single rfl rfl).append (straight_single rfl rfl))

theorem check_printing (name : String) (straight : Straight ops) (now : Time) :
    (printing name now ops).check = .ok () :=
  Code.check_eq_ok.mpr ⟨(straight_printing straight).contained (by simp), nofun⟩

include generated

theorem optimize_printing (now : Time) :
    (printing name now ops).optimize = printing name now ops := by
  have quiet := Generate.quiet_expression generated
  have unprinted : .printRaw ∉ ops ++ [.print, .halt] := by
    intro inside
    obtain inside | last := List.mem_append.mp inside
    · exact (quiet _ inside).1 rfl
    · simp at last
  simp only [Code.optimize, Code.mapStreams, printing, fuse_of_not_mem unprinted, List.map_nil]

include straight

theorem compile_printing (now : Time) :
    (⟨name, [.print place node]⟩ : Template).compile now = .ok (printing name now ops) := by
  have made : Generate.topLevel [] [.print place node] = .ok (ops ++ [.print], []) := by
    simp only [Generate.topLevel, Generate.statement, generated]
    simp [bind, Except.bind, pure, Except.pure]
  have composed : (⟨name, [.print place node]⟩ : Template).composed now =
      .ok (printing name now ops) := by
    have checked := check_printing name straight now
    have same : (⟨name, now, ops ++ [.print] ++ [.halt], []⟩ : Code) = printing name now ops := by
      simp [printing]
    rw [Template.composed, made]
    simp only [bind, Except.bind, same, checked]
    rfl
  obtain whole | ⟨_, _, far⟩ := Template.compile_cases ⟨name, [.print place node]⟩ now
  · rw [whole, composed]
  · have near : Near (ops ++ [.print]) := (straight.append (straight_single rfl rfl)).near
    obtain ⟨_, _, _, _, declared⟩ := far _ _ made near
    cases List.mem_singleton.mp declared

/-- A text that is parsed as one print has that code. -/
theorem compile_page (parsed : Template.parse .standard name source =
    .ok ⟨name, [.print place node]⟩) (optimize : Bool) (now : Time) :
    compileSource .standard optimize now name source = .ok (printing name now ops) := by
  have plain : compileSource .standard false now name source = .ok (printing name now ops) := by
    simp only [compileSource, parsed, bind, Except.bind, mapError_ok,
      compile_printing generated straight]
    rfl
  cases optimize with
  | false => exact plain
  | true =>
      rw [compileSource_optimize, plain]
      exact congrArg Except.ok (optimize_printing generated now)

end

/-! ## Printed expressions -/

theorem Node.sparesSecond_unplaced : (node : Node) →
    Generate.sparesSecond node.unplaced = Generate.sparesSecond node
  | .field _ container _ => sparesSecond_unplaced container
  | .int .. | .uint .. | .float .. | .string .. | .bool .. | .nil _ | .localVar .. | .symbol ..
  | .loopVar .. | .index .. | .methodCall .. | .functionCall .. | .macroCall .. | .filter ..
  | .unary .. | .binary .. | .assign .. | .list .. | .range .. | .text .. | .print ..
  | .discard .. | .conditional .. | .forLoop .. | .whileLoop .. | .macroDef .. | .inclusion ..
  | .wrapper .. => rfl

namespace Generate

mutual

/-- The code of an expression does not depend on its places. -/
theorem expression_unplaced : (node : Node) → expression node.unplaced = expression node
  | .field _ container _ => by
      simp only [Node.unplaced, expression, expression_unplaced container]
  | .index _ container position => by
      simp only [Node.unplaced, expression, expression_unplaced container,
        expression_unplaced position]
  | .methodCall _ invocant _ arguments => by
      simp only [Node.unplaced, expression, expression_unplaced invocant,
        pushed_unplaced arguments]
  | .functionCall _ _ arguments | .macroCall _ _ arguments | .list _ arguments => by
      simp only [Node.unplaced, expression, pushed_unplaced arguments]
  | .filter _ operand _ | .unary _ _ operand | .assign _ _ _ operand => by
      simp only [Node.unplaced, expression, expression_unplaced operand]
  | .binary _ _ left right | .range _ left right => by
      simp only [Node.unplaced, expression, expression_unplaced left, expression_unplaced right,
        Node.sparesSecond_unplaced]
  | .int .. | .uint .. | .float .. | .string .. | .bool .. | .nil _ | .localVar .. | .symbol ..
  | .loopVar .. | .text .. | .print .. | .discard .. | .conditional .. | .forLoop ..
  | .whileLoop .. | .macroDef .. | .inclusion .. | .wrapper .. => rfl

theorem pushed_unplaced : (nodes : List Node) → pushed (Node.unplacedAll nodes) = pushed nodes
  | [] => rfl
  | first :: rest => by
      simp only [Node.unplacedAll, pushed, expression_unplaced first, pushed_unplaced rest]

end

end Generate

/-- A page with nothing but a printed expression has the code of its tree. -/
theorem compile_printed {expression : Template.Expression} {ops : List Op}
    (generated : Generate.expression expression.node = .ok ops) (straight : Straight ops)
    (optimize : Bool) (now : Time) (name : String) :
    compileSource .standard optimize now name expression.printed =
      .ok (printing name now ops) := by
  have following : Token.Following (some .tagStart) (expression.lexemes ++ []) :=
    expression.following ⟨nofun, rfl⟩ fun _ => trivial
  rw [List.append_nil] at following
  obtain ⟨opening, inner, closing, ending, scanned, alone⟩ := Template.scan_tagged following
  have inside : Template.Inside expression inner closing := ⟨alone.same, alone.closes⟩
  obtain ⟨node, closing', same, closes, takes⟩ := inside.takes ending
  rw [expression.unplaced_node] at same
  obtain ⟨place, parsed⟩ := alone.parse_eq expression.begins scanned closes takes
    (Template.not_assign_of_unplaced same)
  refine compile_page ?_ straight parsed optimize now
  rw [← Generate.expression_unplaced, same]
  exact generated

end Stencil

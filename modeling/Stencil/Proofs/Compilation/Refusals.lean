import Stencil.Proofs.Code.Checked
import Stencil.Proofs.Compilation.Templates
import Stencil.Proofs.Compilation.Layout
import Stencil.Proofs.Compilation.Undated
import Stencil.Proofs.Template.Positions

/-!
# Refused templates

A tree is refused exactly if a node is out of place: a macro in a block, or a statement where a
value is needed. The error is that of the first such node in the order of the walk. The jumps of
all other trees are short of their range and stay in their streams, so that nothing else is refused.
-/

namespace Stencil

/-! ## The first refusal -/

namespace Node

/-- The error of a node that cannot stand where it does. -/
def Occurrence.refusal? : Occurrence → Option CompileError
  | ⟨.block, macroDef _ name _ _⟩ => some (.nestedMacro name)
  | ⟨.value, node⟩ => if node.isStatement then some (.unhandled node.kindName) else none
  | _ => none

/-- The error of the first node that cannot stand where it does. -/
def firstRefusal? (found : List Occurrence) : Option CompileError :=
  found.findSome? Occurrence.refusal?

theorem firstRefusal?_append (found more : List Occurrence) :
    firstRefusal? (found ++ more) = (firstRefusal? found).or (firstRefusal? more) :=
  List.findSome?_append

end Node

namespace Generate

open Node (occurrences occurrencesAll occurrencesBound firstRefusal? firstRefusal?_append)

mutual

theorem problem?_expression : ∀ node : Node,
    problem? (expression node) = firstRefusal? (occurrences .value node)
  | .int .. | .uint .. | .float .. | .string .. | .bool .. | .nil _ | .localVar .. | .symbol ..
  | .loopVar .. => rfl
  | .text .. | .print .. | .discard .. | .conditional .. | .forLoop .. | .whileLoop ..
  | .macroDef .. | .inclusion .. | .wrapper .. => rfl
  | .field _ operand _ | .filter _ operand _ | .unary _ _ operand | .assign _ _ _ operand => by
      rw [expression]
      exact problem?_map (problem?_expression operand)
  | .index _ left right | .binary _ _ left right | .range _ left right => by
      rw [expression]
      refine (problem?_bind (problem?_expression left) fun _ =>
        problem?_map (problem?_expression right)).trans ?_
      exact (firstRefusal?_append _ _).symm
  | .methodCall _ invocant _ arguments => by
      rw [expression]
      refine (problem?_bind (problem?_expression invocant) fun _ =>
        problem?_map (problem?_pushed arguments)).trans ?_
      exact (firstRefusal?_append _ _).symm
  | .functionCall _ _ nodes | .macroCall _ _ nodes | .list _ nodes => by
      rw [expression]
      exact problem?_map (problem?_pushed nodes)

theorem problem?_pushed : ∀ nodes : List Node,
    problem? (pushed nodes) = firstRefusal? (occurrencesAll .value nodes)
  | [] => rfl
  | first :: rest => by
      rw [pushed, occurrencesAll, firstRefusal?_append]
      exact problem?_bind (problem?_expression first) fun _ => problem?_map (problem?_pushed rest)

theorem problem?_pushedBindings : ∀ bound : List (String × Node),
    problem? (pushedBindings bound) = firstRefusal? (occurrencesBound bound)
  | [] => rfl
  | (name, first) :: rest => by
      rw [pushedBindings, occurrencesBound, firstRefusal?_append]
      exact problem?_bind (problem?_expression first) fun _ =>
        problem?_map (problem?_pushedBindings rest)

end

theorem problem?_bindings (bound : List (String × Node)) :
    problem? (bindings bound) = firstRefusal? (occurrencesBound bound) := by
  cases bound with
  | nil => rfl
  | cons first rest => exact problem?_map (problem?_pushedBindings (first :: rest))

theorem problem?_target (template : Node) (bound : List (String × Node)) :
    problem? (target template bound) =
      firstRefusal? (occurrences .value template ++ occurrencesBound bound) := by
  rw [target, firstRefusal?_append]
  exact problem?_bind (problem?_expression template) fun _ => problem?_map (problem?_bindings bound)

mutual

theorem problem?_statement : ∀ node : Node,
    problem? (statement node) = firstRefusal? (occurrences .block node)
  | .text .. | .macroDef .. => rfl
  | .print _ operand => by
      rw [statement]
      exact problem?_map (problem?_expression operand)
  | .discard _ operand => problem?_expression operand
  | .conditional _ condition positive negative => by
      rw [statement]
      refine (problem?_bind (problem?_expression condition) fun _ =>
        problem?_bind (problem?_block positive) fun _ =>
          problem?_map (problem?_block negative)).trans ?_
      rw [← Option.or_assoc, ← firstRefusal?_append, ← firstRefusal?_append]
      rfl
  | .forLoop _ _ _ operand body _ | .whileLoop _ operand body _ _ => by
      rw [statement]
      refine (problem?_bind (problem?_expression operand) fun _ =>
        problem?_map (problem?_block body)).trans ?_
      exact (firstRefusal?_append _ _).symm
  | .inclusion _ template bound => by
      rw [statement]
      exact problem?_map (problem?_target template bound)
  | .wrapper _ template bound body => by
      rw [statement]
      refine (problem?_bind (problem?_block body) fun _ =>
        problem?_map (problem?_target template bound)).trans ?_
      rw [← firstRefusal?_append, ← List.append_assoc]
      rfl
  | .int .. | .uint .. | .float .. | .string .. | .bool .. | .nil _ | .localVar .. | .symbol ..
  | .loopVar .. => rfl
  | .field .. | .index .. | .methodCall .. | .functionCall .. | .macroCall .. | .filter ..
  | .unary .. | .binary .. | .assign .. | .list .. | .range .. => problem?_expression _

theorem problem?_block : ∀ nodes : List Node,
    problem? (block nodes) = firstRefusal? (occurrencesAll .block nodes)
  | [] => rfl
  | first :: rest => by
      rw [block, occurrencesAll, firstRefusal?_append]
      exact problem?_bind (problem?_statement first) fun _ => problem?_map (problem?_block rest)

end

theorem problem?_topLevel (macros : Dictionary MacroCode) (nodes : List Node) :
    problem? (topLevel macros nodes) = firstRefusal? (occurrencesAll .top nodes) := by
  induction nodes generalizing macros with
  | nil => rfl
  | cons first rest ih =>
      rw [occurrencesAll, firstRefusal?_append]
      cases first with
      | macroDef place name parameters body =>
          rw [topLevel]
          exact problem?_bind (problem?_block body) fun _ => ih _
      | _ =>
          simp only [topLevel]
          exact problem?_bind (problem?_statement _) fun _ => problem?_map (ih macros)

/-! ## Streams -/

open Node (storedAll)

/-- Behind the code there is an end, which its jumps can reach. -/
theorem contained_of_confined {slots : List Nat} {code : List Op}
    (confined : Confined slots code) : Contained (code ++ [Op.halt]) where
  halts := List.getLast?_concat
  jumps := by
    intro place op offset found jumping
    rcases Nat.lt_or_ge place code.length with inside | behind
    · rw [List.getElem?_append_left inside] at found
      obtain ⟨positive, within⟩ := confined.jumps place op offset found jumping
      refine ⟨(place + offset).toNat, ?_, ?_⟩
      · rw [jumpTarget?, Nat.zero_add]
        exact if_neg (by omega)
      · rw [List.length_append, List.length_singleton]
        omega
    · rw [List.getElem?_append_right behind] at found
      obtain ⟨⟩ := List.mem_singleton.mp (List.mem_of_getElem? found)
      cases jumping

theorem contained_of_topLevel {macros macros' : Dictionary MacroCode} {nodes : List Node}
    {code : List Op} (generated : topLevel macros nodes = .ok (code, macros'))
    (before : ∀ entry ∈ macros, Contained entry.2.ops) :
    ∀ entry ∈ macros', Contained entry.2.ops := by
  induction nodes generalizing macros code with
  | nil =>
      cases generated
      exact before
  | cons first rest ih =>
      obtain ⟨place, name, parameters, body, ops, rfl, inside, further⟩ |
        ⟨here, more, started, plain, further, rfl⟩ := topLevel_cons generated
      · refine ih further fun entry present => ?_
        rcases Dictionary.mem_insert present with rfl | present
        · exact contained_of_confined (confined_block inside)
        · exact before entry present
      · exact ih further before

end Generate

namespace Template

open Node (firstRefusal?)

variable {template : Template} {ops : List Op} {macros : Dictionary MacroCode}

/-- Code that is composed passes the check. -/
theorem check_of_topLevel (generated : Generate.topLevel [] template.nodes = .ok (ops, macros))
    (now : Time) : Code.check ⟨template.name, now, ops ++ [Op.halt], macros⟩ = .ok () := by
  have whole : Contained (ops ++ [Op.halt]) :=
    Generate.contained_of_confined
      (Generate.confined_of_emits (Generate.emits_of_topLevel generated))
  have others := Generate.contained_of_topLevel generated (List.forall_mem_nil _)
  exact Code.check_eq_ok.mpr ⟨whole, others⟩

/-- What compiling fails with is the refusal of the first node that is out of place. -/
theorem problem?_compile (short : template.Short) (now : Time) :
    problem? (template.compile now) = firstRefusal? template.occurrences := by
  have refused := Generate.problem?_topLevel [] template.nodes
  rw [compile_of_short short, composed, occurrences, ← refused]
  cases generated : Generate.topLevel [] template.nodes with
  | error problem => rfl
  | ok result =>
      have checked := check_of_topLevel generated now
      simp only [bind, Except.bind, checked]
      rfl

/-- A tree whose code is short is compiled, to code that passes the check, unless a node is out of
place: a macro in a block, or a statement where a value is needed. Else the error is that of the
first such node in the order of the walk, never one of a jump or of the check. Parsed templates are
refused only for macros in blocks. -/
theorem compiles_unless_misplaced (short : template.Short) (now : Time) :
    ((∃ code, template.compile now = .ok code ∧ code.check = .ok ()) ↔
      ∀ occurrence ∈ template.occurrences, occurrence.refusal? = none) ∧
    (∀ error, template.compile now = .error error ↔
      ∃ before found behind, template.occurrences = before ++ found :: behind ∧
        (∀ occurrence ∈ before, occurrence.refusal? = none) ∧ found.refusal? = some error) ∧
    (∀ error, template.compile now = .error error →
      (∃ kindName, error = .unhandled kindName) ∨ ∃ name, error = .nestedMacro name) ∧
    ∀ dialect name source, parse dialect name source = .ok template →
      ∀ error, template.compile now = .error error →
        ∃ place name parameters body,
          ⟨.block, .macroDef place name parameters body⟩ ∈ template.occurrences ∧
            error = .nestedMacro name := by
  have refused := problem?_compile short now
  have erring (error : CompileError) : template.compile now = .error error ↔
      ∃ before found behind, template.occurrences = before ++ found :: behind ∧
        (∀ occurrence ∈ before, occurrence.refusal? = none) ∧ found.refusal? = some error := by
    rw [← problem?_eq_some, refused, firstRefusal?, List.findSome?_eq_some_iff]
    constructor
    · rintro ⟨before, found, behind, same, refusal, earlier⟩
      exact ⟨before, found, behind, same, earlier, refusal⟩
    · rintro ⟨before, found, behind, same, earlier, refusal⟩
      exact ⟨before, found, behind, same, refusal, earlier⟩
  refine ⟨?_, erring, ?_, ?_⟩
  · rw [← List.findSome?_eq_none_iff]
    constructor
    · rintro ⟨code, compiled, -⟩
      rw [compiled] at refused
      exact refused.symm
    · intro none
      obtain ⟨code, compiled⟩ := problem?_eq_none.mp (refused.trans none)
      obtain ⟨ops, macros, -, -, checked⟩ := compile_eq_ok compiled
      exact ⟨code, compiled, checked⟩
  · intro error failed
    obtain ⟨_, found, _, _, _, refusal⟩ := (erring error).mp failed
    unfold Node.Occurrence.refusal? at refusal
    split at refusal
    · exact .inr ⟨_, (Option.some.inj refusal).symm⟩
    · split at refusal
      · exact .inl ⟨_, (Option.some.inj refusal).symm⟩
      · cases refusal
    · cases refusal
  · intro dialect name source parsed error failed
    obtain ⟨before, found, behind, same, -, refusal⟩ := (erring error).mp failed
    have inside : found ∈ template.occurrences := by
      rw [same]
      exact List.mem_append_right _ List.mem_cons_self
    have settled := settled_of_parse parsed found inside
    unfold Node.Occurrence.refusal? at refusal
    split at refusal
    · next place name parameters body =>
      cases refusal
      exact ⟨place, name, parameters, body, inside, rfl⟩
    · next node =>
      rw [if_neg (Bool.eq_false_iff.mp (settled rfl))] at refusal
      cases refusal
    · cases refusal

/-- A template with a condition and a macro. -/
def orderly : Template where
  name := "orderly"
  nodes := [.conditional .start (.symbol .start "x") [.text .start "a"] [.text .start "b"],
    .macroDef .start "m" [] [.print .start (.symbol .start "x")]]

/-- A template with a macro in a block, in front of a statement where a value is needed. -/
def disorderly : Template where
  name := "disorderly"
  nodes := [.wrapper .start (.text .start "a") [] [.macroDef .start "m" [] []]]

theorem compiles_unless_misplaced_orderly :
    (∃ code, orderly.compile ⟨0⟩ = .ok code ∧ code.check = .ok ()) ∧
      disorderly.compile ⟨0⟩ = .error (.nestedMacro "m") := by
  constructor
  · have short : orderly.Short := by
      refine ⟨by decide, fun place name parameters body declared => ?_⟩
      obtain ⟨⟨⟩⟩ | declared := List.mem_cons.mp declared
      obtain ⟨⟩ := List.mem_singleton.mp declared
      decide
    exact (compiles_unless_misplaced short ⟨0⟩).1.mpr (by decide)
  · have short : disorderly.Short := by
      refine ⟨by decide, fun place name parameters body declared => ?_⟩
      obtain ⟨⟩ := List.mem_singleton.mp declared
    refine ((compiles_unless_misplaced short ⟨0⟩).2.1 _).mpr
      ⟨[_], _, _, rfl, List.forall_mem_singleton.mpr rfl, rfl⟩

end Template

end Stencil

import Stencil.Proofs.Template.Expressions
import Stencil.Proofs.Template.Frames
import Stencil.Proofs.Template.Turns
import Stencil.Proofs.Template.Walk

/-!
# Parsed blocks

What becomes of the variables and the macros while a block is parsed, and what is known of its
nodes: they write only slots that the frame leaves open to them, their loops have the ceiling of the
settings, and the macros that they call were declared.
-/

namespace Stencil

namespace Node

/-- Whether a macro is declared somewhere among nodes. -/
def DeclaredIn (name : String) (nodes : List Node) : Prop :=
  ∃ place parameters body, Node.macroDef place name parameters body ∈ walkAll nodes

theorem Proper.mono {macros more : List String} {max : Nat} {node : Node}
    (proper : node.Proper macros max) (grown : ∀ name ∈ macros, name ∈ more) :
    node.Proper more max := by
  cases node with
  | macroCall place name arguments => exact grown name proper
  | _ => exact proper

theorem storedAll_append (nodes rest : List Node) :
    storedAll (nodes ++ rest) = storedAll nodes ++ storedAll rest := by
  induction nodes with
  | nil => rfl
  | cons first nodes ih => rw [List.cons_append, storedAll, storedAll, ih, List.append_assoc]

end Node

namespace Template

open Node (Clean DeclaredIn)
open Stencil.Template.Frame (Grows)

variable {α β : Type}

/-- A parse that starts with certain variables and macros ends with something good. -/
def Gives (settings : Settings) (frame : Frame) (macros : List String) (parse : Parse α)
    (good : α → Frame → List String → Prop) : Prop :=
  ∀ start value after, start.frame = frame → start.macros = macros →
    parse settings start = .ok (value, after) → good value after.frame after.macros

namespace Gives

variable {settings : Settings} {frame : Frame} {macros : List String}
  {good : α → Frame → List String → Prop} {fine : β → Frame → List String → Prop}

theorem of_turns {parse : Parse α}
    (turns : ∀ tokens, Turns settings ⟨tokens, frame, macros⟩ parse good) :
    Gives settings frame macros parse good := by
  intro start value after framed named ran
  exact (turns _ start value after ⟨start.stream.draws_self, framed, named⟩ ran).2

theorem pure {value : α} (holds : good value frame macros) :
    Gives settings frame macros (Pure.pure value) good :=
  of_turns fun _ => .pure holds

theorem bind {first : Parse α} {next : α → Parse β} (begun : Gives settings frame macros first good)
    (continued : ∀ value frame' macros', good value frame' macros' →
      Gives settings frame' macros' (next value) fine) :
    Gives settings frame macros (first >>= next) fine := by
  intro start value after framed named ran
  obtain ⟨found, between, here, further⟩ := run_bind.mp ran
  have holds := begun start found between framed named here
  exact continued found between.frame between.macros holds between value after rfl rfl further

/-- What changes nothing comes before. -/
theorem still {first : Parse α} {next : α → Parse β} {clean : α → Prop}
    (begun : Still macros first clean)
    (continued : ∀ value, clean value → Gives settings frame macros (next value) fine) :
    Gives settings frame macros (first >>= next) fine := by
  intro start value after framed named ran
  obtain ⟨found, between, here, further⟩ := run_bind.mp ran
  obtain ⟨same, named, holds⟩ := begun settings start found between named here
  exact continued found holds between value after (same.trans framed) named further

theorem ite {condition : Prop} [Decidable condition] {first second : Parse α}
    (one : Gives settings frame macros first good)
    (other : Gives settings frame macros second good) :
    Gives settings frame macros (if condition then first else second) good := by
  split
  · exact one
  · exact other

theorem fault (token : Token) (problem : GrammarFault) :
    Gives settings frame macros (Template.fault token problem : Parse α) good :=
  of_turns fun _ => .fault token problem

theorem unexpected (token : Token) (what : String) :
    Gives settings frame macros (Template.unexpected token what : Parse α) good :=
  fault token _

theorem tooDeep : Gives settings frame macros (Template.tooDeep : Parse α) good :=
  of_turns fun _ => .tooDeep

theorem read : Gives settings frame macros (MonadReader.read : Parse Settings)
    fun value frame' macros' => value = settings ∧ frame' = frame ∧ macros' = macros :=
  of_turns fun _ => .read

theorem get : Gives settings frame macros (MonadState.get : Parse State)
    fun value frame' macros' => value.frame = frame ∧ frame' = frame ∧ macros' = macros :=
  of_turns fun _ => .get

theorem withFrame (change : Frame → Nat × Frame) :
    Gives settings frame macros (withFrame change) fun slot frame' macros' =>
      slot = (change frame).1 ∧ frame' = (change frame).2 ∧ macros' = macros :=
  of_turns fun _ => .withFrame change

theorem setFrame (frame' : Frame) :
    Gives settings frame macros (setFrame frame') fun _ next macros' =>
      next = frame' ∧ macros' = macros :=
  of_turns fun _ => .setFrame frame'

theorem modify (change : Frame → Frame) :
    Gives settings frame macros
      (MonadState.modifyGet fun state => ((), { state with frame := change state.frame }))
      fun _ frame' macros' => frame' = change frame ∧ macros' = macros :=
  of_turns fun _ => .modify change

theorem declareMacro (name : String) :
    Gives settings frame macros (declareMacro name) fun _ frame' macros' =>
      frame' = frame ∧ (∀ other ∈ macros, other ∈ macros') ∧
        ∀ other ∈ macros', other ∈ macros ∨ other = name :=
  of_turns fun _ => .declareMacro name

end Gives

/-! ## What nodes are made of -/

/-- What is known where nodes were parsed. -/
structure Made (settings : Settings) (frame : Frame) (macros : List String) (frame' : Frame)
    (macros' : List String) (nodes : List Node) : Prop where
  grows : Grows frame frame'
  kept : ∀ name ∈ macros, name ∈ macros'
  named : ∀ name ∈ macros', name ∈ macros ∨ DeclaredIn name nodes
  opened : ∀ slot ∈ Node.storedAll nodes, frame.Open slot
  proper : ∀ inner ∈ Node.walkAll nodes, inner.Proper macros' settings.maxIterations

namespace Made

variable {settings : Settings} {frame frame' frame'' : Frame}
  {macros macros' macros'' : List String} {nodes rest : List Node} {node inner : Node}

theorem nil : Made settings frame macros frame macros [] :=
  ⟨.refl frame, fun _ => id, fun _ => .inl, nofun, nofun⟩

theorem append (made : Made settings frame macros frame' macros' nodes)
    (made' : Made settings frame' macros' frame'' macros'' rest) :
    Made settings frame macros frame'' macros'' (nodes ++ rest) where
  grows := made.grows.trans made'.grows
  kept name inside := made'.kept name (made.kept name inside)
  named name inside := by
    unfold DeclaredIn
    rw [Node.walkAll_append]
    obtain inside | ⟨place, parameters, body, inside⟩ := made'.named name inside
    · obtain inside | ⟨place, parameters, body, inside⟩ := made.named name inside
      · exact .inl inside
      · exact .inr ⟨place, parameters, body, List.mem_append_left _ inside⟩
    · exact .inr ⟨place, parameters, body, List.mem_append_right _ inside⟩
  opened := by
    rw [Node.storedAll_append]
    exact List.forall_mem_append.mpr
      ⟨made.opened, fun slot inside => made.grows.open (made'.opened slot inside)⟩
  proper := by
    rw [Node.walkAll_append]
    exact List.forall_mem_append.mpr
      ⟨fun inner inside => (made.proper inner inside).mono made'.kept, made'.proper⟩

/-- Macros stay declared among nodes that have the nodes as parts. -/
theorem declared {more : List Node} (made : Made settings frame macros frame' macros' nodes)
    (part : ∀ inner ∈ Node.walkAll nodes, inner ∈ Node.walkAll more) :
    ∀ name ∈ macros', name ∈ macros ∨ DeclaredIn name more := by
  intro name inside
  obtain earlier | ⟨place, parameters, body, found⟩ := made.named name inside
  · exact .inl earlier
  · exact .inr ⟨place, parameters, body, part _ found⟩

/-- Expressions change nothing. -/
theorem of_clean (clean : Clean macros node) : Made settings frame macros frame macros [node] := by
  refine ⟨.refl frame, fun _ => id, fun _ => .inl, ?_, ?_⟩
  · rw [Node.storedAll, clean.stored]
    exact List.forall_mem_nil _
  · exact List.forall_mem_append.mpr
      ⟨fun inner inside => clean.proper inner inside _, List.forall_mem_nil _⟩

/-- A node that has the parts of other nodes, and stores nothing more. -/
theorem around (made : Made settings frame macros frame' macros' nodes)
    (stored : ∀ slot ∈ node.stored, slot ∈ Node.storedAll nodes)
    (walk : node.walk = node :: Node.walkAll nodes)
    (proper : node.Proper macros' settings.maxIterations) :
    Made settings frame macros frame' macros' [node] where
  grows := made.grows
  kept := made.kept
  named := by
    refine made.declared fun inner inside => List.mem_append_left _ ?_
    rw [walk]
    exact .tail _ inside
  opened slot inside := by
    obtain inside | inside := List.mem_append.mp inside
    · exact made.opened slot (stored slot inside)
    · cases inside
  proper := by
    rw [Node.walkAll, walk]
    exact List.forall_mem_append.mpr ⟨List.forall_mem_cons.mpr ⟨proper, made.proper⟩, nofun⟩

end Made

/-! ## Statements -/

section

variable {settings : Settings} {frame : Frame} {macros : List String}

/-- A node that is parsed in place. -/
def MadeOne (settings : Settings) (frame : Frame) (macros : List String) (node : Node)
    (frame' : Frame) (macros' : List String) : Prop :=
  Made settings frame macros frame' macros' [node]

theorem made_assign {value : Node} {place : Place} {name : String} {slot : Nat} {frame' : Frame}
    (clean : Clean macros value) (grows : Grows frame frame') (opened : frame.Open slot) :
    Made settings frame macros frame' macros [.assign place name slot value] where
  grows := grows
  kept _ := id
  named _ := .inl
  opened other inside := by
    simp only [Node.storedAll, Node.stored, clean.stored, List.append_nil, List.mem_singleton]
      at inside
    rwa [inside]
  proper := by
    simp only [Node.walkAll, Node.walk, List.append_nil]
    exact List.forall_mem_cons.mpr ⟨trivial, fun inner inside => clean.proper inner inside _⟩

theorem gives_statement (allowance : Nat) :
    Gives settings frame macros (statement allowance) (MadeOne settings frame macros) := by
  refine .still (reads allowance).expression fun target clean => ?_
  refine .still Still.peekKind fun kind _ => ?_
  split
  · exact .pure (Made.of_clean clean)
  · next assignment _ =>
      refine .still Still.nextToken fun token _ => ?_
      split
      · exact .fault _ _
      · next name _ =>
          refine .still (reads allowance).expression fun operand clean' => ?_
          refine .bind (.withFrame _) ?_
          rintro _ _ _ ⟨rfl, rfl, rfl⟩
          obtain ⟨grows, opened⟩ := Frame.grows_assignable frame name
          refine .pure (made_assign ?_ grows opened)
          split
          · exact clean'
          · exact clean.join clean' rfl rfl fun _ => trivial

theorem gives_setDirective (allowance : Nat) (place : Place) :
    Gives settings frame macros (setDirective allowance place) (MadeOne settings frame macros) := by
  refine .still (Still.expectName _) fun name _ => .still (Still.expect _ _) fun _ _ => ?_
  refine .still (reads allowance).expression fun value clean => ?_
  refine .still Still.expectClosing fun _ _ => .bind (.withFrame _) ?_
  rintro _ _ _ ⟨rfl, rfl, rfl⟩
  obtain ⟨grows, opened⟩ := Frame.grows_settable frame name
  have made : Made settings frame _ _ _ [Node.assign place name _ value] :=
    made_assign clean grows opened
  exact .pure (made.around (by simp [Node.stored, Node.storedAll])
    (by simp [Node.walk, Node.walkAll]) trivial)

end

/-! ## Parts of directives -/

section

open Node (CleanBindings)

variable {macros : List String}

theorem cleanBindings_of_forall {bound : List (String × Node)}
    (cleans : ∀ binding ∈ bound, Clean macros binding.2) : CleanBindings macros bound := by
  induction bound with
  | nil => exact ⟨rfl, nofun⟩
  | cons binding rest ih =>
      obtain ⟨clean, others⟩ := List.forall_mem_cons.mp cleans
      have cleans := ih others
      refine ⟨?_, List.forall_mem_append.mpr ⟨clean.proper, cleans.proper⟩⟩
      rw [Node.storedBindings, clean.stored, cleans.stored]
      rfl

theorem still_target (allowance : Nat) :
    Still macros (target allowance) fun (template, bound) =>
      Clean macros template ∧ CleanBindings macros bound := by
  refine .of_steady fun ground same => ?_
  subst same
  refine (steady_target (composes_clean ground) allowance).mono ?_
  rintro ⟨template, bound⟩ ⟨clean, cleans⟩
  exact ⟨clean, cleanBindings_of_forall cleans⟩

theorem still_parameters (allowance : Nat) :
    Still macros (parameters allowance) fun _ => True :=
  .of_steady fun _ _ => steady_parameters allowance

end

/-! ## Blocks -/

/-- The condition of a further branch is an expression. -/
def Ending.Clean (macros : List String) : Ending → Prop
  | .otherwiseIf _ condition => Node.Clean macros condition
  | _ => True

def Directive.nodes : Directive → List Node
  | .node made => [made]
  | _ => []

def Directive.Clean (macros : List String) : Directive → Prop
  | .close ending => ending.Clean macros
  | _ => True

/-- What the functions of the descent through blocks make with an allowance. -/
structure Makes (settings : Settings) (allowance : Nat) : Prop where
  block : ∀ {frame macros}, frame.Within → Gives settings frame macros (block allowance)
    fun (nodes, ending) frame' macros' =>
      Made settings frame macros frame' macros' nodes ∧ ending.Clean macros'
  body : ∀ {frame macros}, frame.Within → Gives settings frame macros (body allowance)
    fun nodes frame' macros' => Made settings frame macros frame' macros' nodes
  directive : ∀ {frame macros}, frame.Within → Gives settings frame macros (directive allowance)
    fun directive frame' macros' =>
      Made settings frame macros frame' macros' directive.nodes ∧ directive.Clean macros'
  branches : ∀ {frame macros condition} place, frame.Within → Clean macros condition →
    Gives settings frame macros (branches allowance place condition)
      (MadeOne settings frame macros)
  forDirective : ∀ {frame macros} place, frame.Within →
    Gives settings frame macros (forDirective allowance place) (MadeOne settings frame macros)
  whileDirective : ∀ {frame macros} place, frame.Within →
    Gives settings frame macros (whileDirective allowance place) (MadeOne settings frame macros)
  macroDirective : ∀ {frame macros} place, frame.Within →
    Gives settings frame macros (macroDirective allowance place) (MadeOne settings frame macros)

theorem makes_zero (settings : Settings) : Makes settings 0 where
  block _ := .tooDeep
  body _ := .tooDeep
  directive _ := .tooDeep
  branches _ _ _ := .tooDeep
  forDirective _ _ := .tooDeep
  whileDirective _ _ := .tooDeep
  macroDirective _ _ := .tooDeep

theorem made_unary {settings : Settings} {frame frame' : Frame} {macros macros' : List String}
    {node inner : Node} (made : Made settings frame macros frame' macros' [inner])
    (stored : node.stored = inner.stored) (walk : node.walk = node :: inner.walk)
    (proper : node.Proper macros' settings.maxIterations) :
    Made settings frame macros frame' macros' [node] := by
  refine made.around ?_ ?_ proper
  · simp [stored, Node.storedAll]
  · simp [walk, Node.walkAll]

theorem made_conditional {settings : Settings} {frame frame' : Frame}
    {macros macros' : List String} {place : Place} {condition : Node}
    {positive negative : List Node} (clean : Clean macros condition)
    (made : Made settings frame macros frame' macros' (positive ++ negative)) :
    Made settings frame macros frame' macros' [.conditional place condition positive negative] := by
  refine ((Made.of_clean clean).append made).around ?_ ?_ trivial
  · simp [Node.stored, Node.storedAll, Node.storedAll_append]
  · simp [Node.walk, Node.walkAll, Node.walkAll_append]

theorem made_forLoop {settings : Settings} {frame inner : Frame} {macros macros' : List String}
    {place : Place} {element : String} {source : Node} {nodes : List Node}
    (within : frame.Within) (clean : Clean macros source)
    (made : Made settings (frame.enterFor element).2 macros inner macros' nodes) :
    Made settings frame macros inner.leaveFor macros'
      [.forLoop place element frame.nextSlot source nodes settings.maxIterations] := by
  have apart (slot : Nat) (stored : slot ∈ Node.storedAll nodes) :=
    Frame.open_enterFor within (made.opened slot stored)
  have handed : frame.nextSlot ≤ inner.nextSlot :=
    Nat.le_trans (Nat.le_add_right _ 3) made.grows.handed
  have walked : Node.walkAll [Node.forLoop place element frame.nextSlot source nodes
      settings.maxIterations] = _ :: (source.walk ++ Node.walkAll nodes) := List.append_nil _
  refine ⟨Frame.grows_leaveFor made.grows.outer handed, made.kept, ?_, ?_, ?_⟩
  · refine made.declared ?_
    rw [walked]
    exact fun inner inside => .tail _ (List.mem_append_right _ inside)
  · intro slot inside
    simp only [Node.storedAll, Node.stored, clean.stored, List.append_nil, List.mem_append,
      List.mem_cons, List.not_mem_nil, or_false] at inside
    obtain (rfl | rfl | rfl) | inside := inside
    · exact .inr (Nat.le_refl _)
    · exact .inr (Nat.le_add_right _ 1)
    · exact .inr (Nat.le_add_right _ 2)
    · exact (apart slot inside).1
  · rw [walked]
    refine List.forall_mem_cons.mpr ⟨⟨rfl, ?_, ?_⟩, List.forall_mem_append.mpr ⟨?_, made.proper⟩⟩
    · exact fun inside => (apart _ inside).2.1 rfl
    · exact fun inside => (apart _ inside).2.2 rfl
    · exact fun inner inside => (clean.proper inner inside _).mono made.kept

theorem made_whileLoop {settings : Settings} {frame inner : Frame} {macros macros' : List String}
    {place : Place} {condition : Node} {nodes : List Node} (within : frame.Within)
    (clean : Clean macros condition)
    (made : Made settings frame.enterWhile.2 macros inner macros' nodes) :
    Made settings frame macros inner.leaveScope macros'
      [.whileLoop place condition nodes frame.nextSlot settings.maxIterations] := by
  have apart (slot : Nat) (stored : slot ∈ Node.storedAll nodes) :=
    Frame.open_enterWhile within (made.opened slot stored)
  have handed : frame.nextSlot ≤ inner.nextSlot :=
    Nat.le_trans (Nat.le_succ _) made.grows.handed
  have walked : Node.walkAll [Node.whileLoop place condition nodes frame.nextSlot
      settings.maxIterations] = _ :: (condition.walk ++ Node.walkAll nodes) := List.append_nil _
  refine ⟨Frame.grows_leaveScope made.grows.outer handed, made.kept, ?_, ?_, ?_⟩
  · refine made.declared ?_
    rw [walked]
    exact fun inner inside => .tail _ (List.mem_append_right _ inside)
  · intro slot inside
    simp only [Node.storedAll, Node.stored, clean.stored, List.append_nil, List.nil_append,
      List.cons_append, List.mem_cons] at inside
    obtain rfl | inside := inside
    · exact .inr (Nat.le_refl _)
    · exact (apart slot inside).1
  · rw [walked]
    refine List.forall_mem_cons.mpr ⟨⟨rfl, ?_, ?_⟩, List.forall_mem_append.mpr ⟨?_, made.proper⟩⟩
    · rw [clean.stored]
      exact List.not_mem_nil
    · exact fun inside => (apart _ inside).2 rfl
    · exact fun inner inside => (clean.proper inner inside _).mono made.kept

theorem made_macroDef {settings : Settings} {frame inner start : Frame}
    {macros macros' macros'' : List String} {place : Place} {name : String}
    {parameters : List String} {nodes : List Node} (kept : ∀ other ∈ macros, other ∈ macros')
    (named : ∀ other ∈ macros', other ∈ macros ∨ other = name)
    (made : Made settings start macros' inner macros'' nodes) :
    Made settings frame macros frame macros'' [.macroDef place name parameters nodes] := by
  have walked : Node.walkAll [Node.macroDef place name parameters nodes] =
      _ :: Node.walkAll nodes := List.append_nil _
  refine ⟨.refl frame, fun other inside => made.kept other (kept other inside), ?_, nofun, ?_⟩
  · have parts : ∀ inner ∈ Node.walkAll nodes,
        inner ∈ Node.walkAll [Node.macroDef place name parameters nodes] := by
      rw [walked]
      exact fun inner inside => .tail _ inside
    intro other inside
    obtain inside | declared := made.declared parts other inside
    · refine (named other inside).imp_right ?_
      rintro rfl
      exact ⟨place, parameters, nodes, by rw [walked]; exact .head _⟩
    · exact .inr declared
  · rw [walked]
    exact List.forall_mem_cons.mpr ⟨trivial, made.proper⟩

theorem clean_inclusion {macros : List String} {place : Place} {template : Node}
    {bound : List (String × Node)} (clean : Clean macros template)
    (cleans : Node.CleanBindings macros bound) :
    Clean macros (.inclusion place template bound) := by
  refine ⟨?_, List.forall_mem_cons.mpr ⟨fun _ => trivial,
    List.forall_mem_append.mpr ⟨clean.proper, cleans.proper⟩⟩⟩
  rw [Node.stored, clean.stored, cleans.stored]
  rfl

theorem made_wrapper {settings : Settings} {frame frame' : Frame} {macros macros' : List String}
    {place : Place} {template : Node} {bound : List (String × Node)} {nodes : List Node}
    (clean : Clean macros template) (cleans : Node.CleanBindings macros bound)
    (made : Made settings frame macros frame' macros' nodes) :
    Made settings frame macros frame' macros' [.wrapper place template bound nodes] := by
  have walked : Node.walkAll [Node.wrapper place template bound nodes] =
      _ :: (Node.walkAll nodes ++ template.walk ++ Node.walkBindings bound) := List.append_nil _
  refine ⟨made.grows, made.kept, ?_, ?_, ?_⟩
  · refine made.declared ?_
    rw [walked]
    exact fun inner inside =>
      .tail _ (List.mem_append_left _ (List.mem_append_left _ inside))
  · intro slot inside
    simp only [Node.storedAll, Node.stored, clean.stored, cleans.stored, List.append_nil] at inside
    exact made.opened slot inside
  · rw [walked]
    refine List.forall_mem_cons.mpr ⟨trivial, List.forall_mem_append.mpr
      ⟨List.forall_mem_append.mpr ⟨made.proper, ?_⟩, ?_⟩⟩
    · exact fun inner inside => (clean.proper inner inside _).mono made.kept
    · exact fun inner inside => (cleans.proper inner inside _).mono made.kept

namespace Makes

variable {settings : Settings} {allowance : Nat} (makes : Makes settings allowance)
  {frame : Frame} {macros : List String} (within : frame.Within)

include makes within

theorem block_succ : Gives settings frame macros (Template.block (allowance + 1))
    fun (nodes, ending) frame' macros' =>
      Made settings frame macros frame' macros' nodes ∧ ending.Clean macros' := by
  refine .still Still.nextToken fun token _ => ?_
  split
  · refine .bind (makes.block within) ?_
    rintro ⟨nodes, ending⟩ frame' macros' ⟨made, clean⟩
    have text : Clean macros (.text token.place token.value) := .leaf rfl rfl fun _ => trivial
    exact .pure ⟨(Made.of_clean text).append made, clean⟩
  · refine .bind (makes.directive within) ?_
    rintro (node | _ | ending) frame' macros' ⟨made, clean⟩
    · refine .bind (makes.block (made.grows.within within)) ?_
      rintro ⟨nodes, ending⟩ frame'' macros'' ⟨made', clean⟩
      exact .pure ⟨made.append made', clean⟩
    · intro start value after framed named ran
      obtain ⟨made', clean⟩ :=
        makes.block (made.grows.within within) start value after framed named ran
      exact ⟨made.append made', clean⟩
    · exact .pure ⟨made, clean⟩
  · exact .pure ⟨.nil, trivial⟩
  · exact .unexpected _ _

theorem body_succ : Gives settings frame macros (Template.body (allowance + 1))
    fun nodes frame' macros' => Made settings frame macros frame' macros' nodes := by
  refine .bind (makes.block within) ?_
  rintro ⟨nodes, ending⟩ frame' macros' ⟨made, _⟩
  cases ending with
  | ofBlock token => exact .pure made
  | _ =>
      have stops (token : Token) : Gives settings frame' macros'
          (unexpected token "END" : Parse Unit) fun _ _ _ => False := .unexpected token _
      exact (stops _).bind fun _ _ _ => False.elim

theorem branches_succ (place : Place) {condition : Node} (clean : Clean macros condition) :
    Gives settings frame macros (Template.branches (allowance + 1) place condition)
      (MadeOne settings frame macros) := by
  refine .bind (makes.block within) ?_
  rintro ⟨positive, ending⟩ frame' macros' ⟨made, clean'⟩
  cases ending with
  | ofBlock token => exact .pure (made_conditional clean (by rwa [List.append_nil]))
  | otherwise token =>
      refine .bind (makes.body (made.grows.within within)) ?_
      intro negative frame'' macros'' made'
      exact .pure (made_conditional clean (made.append made'))
  | otherwiseIf token next =>
      refine .bind (makes.branches _ (made.grows.within within) clean') ?_
      intro negative frame'' macros'' made'
      exact .pure (made_conditional clean (made.append made'))
  | ofInput token => exact .unexpected _ _

theorem forDirective_succ (place : Place) :
    Gives settings frame macros (Template.forDirective (allowance + 1) place)
      (MadeOne settings frame macros) := by
  refine .still (Still.expectName _) fun element _ => .still Still.nextToken fun token _ => ?_
  refine .ite ?_ (.unexpected _ _)
  refine .still (reads allowance).expression fun source clean => ?_
  refine .still Still.expectClosing fun _ _ => .bind (.withFrame _) ?_
  rintro _ _ _ ⟨rfl, rfl, rfl⟩
  refine .bind (makes.body (Frame.within_enterFor element within)) ?_
  intro nodes inner macros' made
  refine .bind (.modify Frame.leaveFor) ?_
  rintro _ _ _ ⟨rfl, rfl⟩
  refine .bind .read ?_
  rintro _ _ _ ⟨rfl, rfl, rfl⟩
  exact .pure (made_forLoop within clean made)

theorem whileDirective_succ (place : Place) :
    Gives settings frame macros (Template.whileDirective (allowance + 1) place)
      (MadeOne settings frame macros) := by
  refine .still (reads allowance).expression fun condition clean => ?_
  refine .still Still.expectClosing fun _ _ => .bind (.withFrame _) ?_
  rintro _ _ _ ⟨rfl, rfl, rfl⟩
  refine .bind (makes.body (Frame.within_enterWhile within)) ?_
  intro nodes inner macros' made
  refine .bind (.modify Frame.leaveScope) ?_
  rintro _ _ _ ⟨rfl, rfl⟩
  refine .bind .read ?_
  rintro _ _ _ ⟨rfl, rfl, rfl⟩
  exact .pure (made_whileLoop within clean made)

theorem macroDirective_succ (place : Place) :
    Gives settings frame macros (Template.macroDirective (allowance + 1) place)
      (MadeOne settings frame macros) := by
  refine .still (Still.expectName _) fun name _ => .still (still_parameters _) fun names _ => ?_
  refine .still (Still.expect _ _) fun _ _ => .still Still.expectClosing fun _ _ => ?_
  refine .bind (.declareMacro name) ?_
  rintro _ _ macros' ⟨rfl, kept, named⟩
  refine .bind .get ?_
  rintro state _ _ ⟨rfl, rfl, rfl⟩
  refine .bind (.setFrame _) ?_
  rintro _ _ _ ⟨rfl, rfl⟩
  refine .bind (makes.body (Frame.within_ofParameters names)) ?_
  intro nodes inner macros'' made
  refine .bind (.setFrame _) ?_
  rintro _ _ _ ⟨rfl, rfl⟩
  exact .pure (made_macroDef kept named made)

theorem directive_succ : Gives settings frame macros (Template.directive (allowance + 1))
    fun directive frame' macros' =>
      Made settings frame macros frame' macros' directive.nodes ∧ directive.Clean macros' := by
  have one {parse : Parse Node} (gives : Gives settings frame macros parse
      (MadeOne settings frame macros)) :
      Gives settings frame macros (do return Directive.node (← parse))
        fun directive frame' macros' =>
          Made settings frame macros frame' macros' directive.nodes ∧ directive.Clean macros' :=
    gives.bind fun node frame' macros' made => .pure ⟨made, trivial⟩
  refine .still Still.nextToken fun token _ => ?_
  dsimp only
  split
  · exact .pure ⟨.nil, trivial⟩
  · refine .still (reads allowance).expression fun value clean => ?_
    refine .still Still.expectClosing fun _ _ => .pure ⟨?_, trivial⟩
    exact made_unary (.of_clean clean) rfl rfl trivial
  · exact one (gives_setDirective _ _)
  · refine .bind (gives_statement allowance) ?_
    intro value frame' macros' made
    refine .still Still.expectClosing fun _ _ => .pure ⟨?_, trivial⟩
    exact made_unary made rfl rfl trivial
  · refine .still (reads allowance).expression fun condition clean => ?_
    exact .still Still.expectClosing fun _ _ => one (makes.branches _ within clean)
  · refine .still (reads allowance).expression fun condition clean => ?_
    refine .still Still.expectClosing fun _ _ => one (makes.branches _ within ?_)
    exact clean.around rfl rfl fun _ => trivial
  · refine .still (reads allowance).expression fun condition clean => ?_
    exact .still Still.expectClosing fun _ _ => .pure ⟨.nil, clean⟩
  · exact .still Still.expectClosing fun _ _ => .pure ⟨.nil, trivial⟩
  · exact .still Still.expectClosing fun _ _ => .pure ⟨.nil, trivial⟩
  · exact one (makes.forDirective _ within)
  · exact one (makes.whileDirective _ within)
  · exact one (makes.macroDirective _ within)
  · refine .still (still_target allowance) ?_
    rintro ⟨template, bound⟩ ⟨clean, cleans⟩
    exact .pure ⟨.of_clean (clean_inclusion clean cleans), trivial⟩
  · refine .still (still_target allowance) ?_
    rintro ⟨template, bound⟩ ⟨clean, cleans⟩
    refine .bind (makes.body within) ?_
    intro nodes frame' macros' made
    exact .pure ⟨made_wrapper clean cleans made, trivial⟩
  · refine .still (Still.putBack token) fun _ _ => .bind (gives_statement allowance) ?_
    intro value frame' macros' made
    refine .still Still.expectClosing fun _ _ => ?_
    split
    · exact .pure ⟨made_unary made rfl rfl trivial, trivial⟩
    · exact .pure ⟨made_unary made rfl rfl trivial, trivial⟩

end Makes

/-- The descent through blocks, whatever its allowance. -/
theorem makes (settings : Settings) (allowance : Nat) : Makes settings allowance := by
  induction allowance with
  | zero => exact makes_zero settings
  | succ allowance ih =>
      exact {
        block := ih.block_succ
        body := ih.body_succ
        directive := ih.directive_succ
        branches := fun place within => ih.branches_succ within place
        forDirective := fun place within => ih.forDirective_succ within place
        whileDirective := fun place within => ih.whileDirective_succ within place
        macroDirective := fun place within => ih.macroDirective_succ within place }

theorem gives_template (settings : Settings) (allowance : Nat) :
    Gives settings .empty [] (template allowance) fun template frame' macros' =>
      Made settings .empty [] frame' macros' template.nodes := by
  refine .bind ((makes settings allowance).block Frame.within_empty) ?_
  rintro ⟨nodes, ending⟩ frame' macros' ⟨made, _⟩
  cases ending with
  | ofInput token =>
      refine .bind .read ?_
      rintro _ _ _ ⟨rfl, rfl, rfl⟩
      exact .pure made
  | _ => exact .fault _ _

/-- What is known of a template that was parsed. -/
theorem proper_of_parse {dialect : Token.Dialect} {name source : String}
    {template : Stencil.Template} (parsed : parse dialect name source = .ok template) :
    ∃ macros, (∀ name ∈ macros, DeclaredIn name template.nodes) ∧
      ∀ inner ∈ template.walk, inner.Proper macros dialect.maxIterations := by
  unfold parse ofTokens at parsed
  dsimp only at parsed
  generalize Token.scan dialect source = tokens at parsed
  have ended := gives_template ⟨name, dialect.closing, dialect.maxIterations⟩ (allowanceFor tokens)
    ⟨.ofTokens tokens, .empty, []⟩
  simp only [ReaderT.run, StateT.run] at parsed
  generalize Template.template (allowanceFor tokens) _ _ = result at parsed ended
  cases result with
  | error problem => cases parsed
  | ok result =>
      obtain ⟨found, after⟩ := result
      cases parsed
      have made := ended found after rfl rfl rfl
      exact ⟨after.macros, fun name inside => (made.named name inside).resolve_left nofun,
        made.proper⟩

end Template

end Stencil

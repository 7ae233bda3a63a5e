import Stencil.Proofs.Template.Descent
import Stencil.Proofs.Template.Resolved
import Stencil.Proofs.Template.Turns
import Stencil.Proofs.Template.Walk

/-!
# Slots of parsed templates

In each frame of a parsed template the declarations share no slot, and every name stands for the
variable that the rules of scopes give it.
-/

namespace Stencil.Template

open Node (ReadAt)

/-! ## Expressions -/

/-- What can be seen in a frame. -/
def Frame.lexical (frame : Frame) : Lexical :=
  ⟨frame.scope, frame.outer, frame.loops⟩

section

variable {tokens : List Token} {lexical : Lexical} {node : Node} {nodes : List Node}

theorem readAt_leaf (walk : node.walk = [node]) (refers : node.Refers tokens lexical) :
    ReadAt tokens lexical node := by
  unfold ReadAt
  rw [walk]
  exact List.forall_mem_singleton.mpr refers

theorem readAt_around (walk : node.walk = node :: nodes) (refers : node.Refers tokens lexical)
    (parts : ∀ inner ∈ nodes, inner.Refers tokens lexical) : ReadAt tokens lexical node := by
  unfold ReadAt
  rw [walk]
  exact List.forall_mem_cons.mpr ⟨refers, parts⟩

theorem readAt_literal {place : Place} {source : String}
    (denoted : literal place source = .ok node) : ReadAt tokens lexical node := by
  obtain ⟨_, rfl⟩ | ⟨_, rfl⟩ | ⟨_, rfl⟩ := number_of_literal denoted
  all_goals exact readAt_leaf rfl trivial

/-- The meaning that a parse gives to a name is the one it has in the scopes around. -/
theorem readAt_resolve {frame : Frame} {token : Token} (inside : token ∈ tokens)
    (ident : token.kind = .ident) :
    ReadAt tokens frame.lexical (frame.resolve token.place token.value) := by
  obtain ⟨kind, place, name⟩ := token
  obtain rfl : kind = .ident := ident
  unfold Frame.resolve
  cases found : frame.lookup? name with
  | some slot => exact readAt_leaf rfl ⟨inside, found⟩
  | none =>
      dsimp only
      split
      · next slot outer loops =>
          exact readAt_leaf rfl ⟨inside, found, by rw [Frame.lexical, loops]; rfl⟩
      · next other =>
          refine readAt_leaf rfl ⟨inside, found, ?_⟩
          rintro rfl
          cases loops : frame.loops with
          | nil => exact loops
          | cons slot outer => exact absurd loops (other slot outer rfl)

end

theorem composes_readAt (ground : Ground) :
    Composes ground (ReadAt ground.tokens ground.frame.lexical) where
  literal := readAt_literal
  string _ _ := readAt_leaf rfl trivial
  bool _ _ := readAt_leaf rfl trivial
  nil _ := readAt_leaf rfl trivial
  name := readAt_resolve
  field _ read := readAt_around rfl trivial read
  index read read' := readAt_around rfl trivial (List.forall_mem_append.mpr ⟨read, read'⟩)
  methodCall _ read reads := readAt_around rfl trivial
    (List.forall_mem_append.mpr ⟨read, Node.forall_walkAll reads⟩)
  functionCall _ reads := readAt_around rfl trivial (Node.forall_walkAll reads)
  macroCall _ reads := readAt_around rfl trivial (Node.forall_walkAll reads)
  filter _ read := readAt_around rfl trivial read
  unary _ read := readAt_around rfl trivial read
  binary _ read read' := readAt_around rfl trivial (List.forall_mem_append.mpr ⟨read, read'⟩)
  list reads := readAt_around rfl trivial (Node.forall_walkAll reads)
  range read read' := readAt_around rfl trivial (List.forall_mem_append.mpr ⟨read, read'⟩)

theorem steady_expression (ground : Ground) (allowance : Nat) :
    Steady ground (expression allowance) (ReadAt ground.tokens ground.frame.lexical) :=
  (descends (composes_readAt ground) allowance).expression

/-! ## Slots in their order -/

/-- The declarations hand out the slots from one up to another, each once. -/
def Handed (start : Nat) (declared : List Declaration) (stop : Nat) : Prop :=
  ∃ count, stop = start + count ∧ declared.flatMap Declaration.slots = List.range' start count

namespace Handed

variable {start middle stop : Nat} {declared more : List Declaration}

theorem nil (start : Nat) : Handed start [] start :=
  ⟨0, rfl, rfl⟩

theorem append (handed : Handed start declared middle) (handed' : Handed middle more stop) :
    Handed start (declared ++ more) stop := by
  obtain ⟨count, rfl, slots⟩ := handed
  obtain ⟨count', rfl, slots'⟩ := handed'
  refine ⟨count + count', Nat.add_assoc _ _ _, ?_⟩
  rw [List.flatMap_append, slots, slots', List.range'_append_1]

theorem named (name : String) (slot : Nat) : Handed slot [.named name slot] (slot + 1) :=
  ⟨1, rfl, rfl⟩

theorem element (name : String) (slot : Nat) : Handed slot [.element name slot] (slot + 3) :=
  ⟨3, rfl, rfl⟩

theorem count (slot : Nat) : Handed slot [.count slot] (slot + 1) :=
  ⟨1, rfl, rfl⟩

theorem parameters (parameters : List String) :
    Handed 0 (Declaration.ofParameters parameters) parameters.length := by
  have from_ (start : Nat) : ((parameters.zipIdx start).map fun entry =>
      Declaration.named entry.1 entry.2).flatMap Declaration.slots =
        List.range' start parameters.length := by
    induction parameters generalizing start with
    | nil => rfl
    | cons name rest ih =>
        rw [List.zipIdx_cons, List.map_cons, List.flatMap_cons, ih]
        rfl
  exact ⟨parameters.length, (Nat.zero_add _).symm, from_ 0⟩

theorem nodup (handed : Handed start declared stop) :
    (declared.flatMap Declaration.slots).Nodup := by
  obtain ⟨count, _, slots⟩ := handed
  rw [slots]
  exact List.nodup_range' ..

end Handed

/-! ## Nodes -/

/-- Every macro among some nodes has a body that keeps the rules. -/
def MacrosHygienic (tokens : List Token) (nodes : List Node) : Prop :=
  ∀ inner ∈ nodes, ∀ body, inner.body? = some body → body.Hygienic tokens

/-- What is known of nodes that were parsed between two states of a frame. -/
structure Lays (tokens : List Token) (frame : Frame) (nodes : List Node) (frame' : Frame) :
    Prop where
  resolved : ∃ declared, Resolved tokens frame.lexical nodes frame'.lexical declared ∧
    Handed frame.nextSlot declared frame'.nextSlot
  macros : MacrosHygienic tokens (Node.walkAll nodes)

section

variable {tokens : List Token} {lexical : Lexical} {node : Node} {nodes rest : List Node}

theorem MacrosHygienic.append (first : MacrosHygienic tokens nodes)
    (second : MacrosHygienic tokens rest) : MacrosHygienic tokens (nodes ++ rest) :=
  List.forall_mem_append.mpr ⟨first, second⟩

theorem MacrosHygienic.cons (none : node.body? = none) (rest : MacrosHygienic tokens nodes) :
    MacrosHygienic tokens (node :: nodes) := by
  refine List.forall_mem_cons.mpr ⟨?_, rest⟩
  intro body found
  rw [none] at found
  cases found

theorem macrosHygienic_of_readAt (read : ReadAt tokens lexical node) :
    MacrosHygienic tokens node.walk := by
  intro inner inside body found
  have refers := read inner inside
  cases inner with
  | macroDef => exact absurd refers id
  | _ => cases found

theorem macrosHygienic_of_bindings {bindings : List (String × Node)}
    (bound : ∀ binding ∈ bindings, ReadAt tokens lexical binding.2) :
    MacrosHygienic tokens (Node.walkBindings bindings) :=
  Node.forall_walkBindings fun binding among => macrosHygienic_of_readAt (bound binding among)

end

namespace Lays

variable {tokens : List Token} {frame frame' frame'' inner : Frame} {nodes rest : List Node}
  {value condition source target : Node} {place : Place} {name : String} {token : Token}
  {bindings : List (String × Node)}

theorem nil : Lays tokens frame [] frame :=
  ⟨⟨[], .nil, .nil _⟩, nofun⟩

theorem append (lays : Lays tokens frame nodes frame') (lays' : Lays tokens frame' rest frame'') :
    Lays tokens frame (nodes ++ rest) frame'' := by
  obtain ⟨declared, resolved, handed⟩ := lays.resolved
  obtain ⟨more, resolved', handed'⟩ := lays'.resolved
  refine ⟨⟨declared ++ more, resolved.append resolved', handed.append handed'⟩, ?_⟩
  rw [Node.walkAll_append]
  exact lays.macros.append lays'.macros

theorem text (place : Place) (content : String) :
    Lays tokens frame [.text place content] frame :=
  ⟨⟨[], .text place content, .nil _⟩, .cons rfl nofun⟩

theorem print (read : ReadAt tokens frame.lexical value) :
    Lays tokens frame [.print place value] frame :=
  ⟨⟨[], .print place read, .nil _⟩,
    .cons rfl ((macrosHygienic_of_readAt read).append nofun)⟩

theorem discard (read : ReadAt tokens frame.lexical value) :
    Lays tokens frame [.discard place value] frame :=
  ⟨⟨[], .discard place read, .nil _⟩,
    .cons rfl ((macrosHygienic_of_readAt read).append nofun)⟩

/-- An assignment, to the variable that was found or else to a new one. -/
theorem assign {slot? : Option Nat} {choice : Nat × Frame}
    (chosen : choice = match slot? with
      | some slot => (slot, frame)
      | none => frame.declare name)
    (written : token ∈ tokens) (found : frame.lexical.Finds name token slot?)
    (read : ReadAt tokens frame.lexical value) :
    Lays tokens frame [.discard place (.assign token.place name choice.1 value)] choice.2 := by
  subst chosen
  have macros (slot : Nat) : MacrosHygienic tokens
      (Node.walkAll [.discard place (.assign token.place name slot value)]) :=
    .cons rfl (.append (.cons rfl (macrosHygienic_of_readAt read)) nofun)
  cases slot? with
  | some slot => exact ⟨⟨[], .assign place written found read, .nil _⟩, macros slot⟩
  | none =>
      exact ⟨⟨_, .declare place written found read, .named name frame.nextSlot⟩, macros _⟩

/-- What the second branch declares comes after what the first one does. -/
theorem conditional (read : ReadAt tokens frame.lexical condition)
    (lays : Lays tokens frame nodes frame') (lays' : Lays tokens frame' rest frame'') :
    Lays tokens frame [.conditional place condition nodes rest] frame'' := by
  obtain ⟨declared, resolved, handed⟩ := lays.resolved
  obtain ⟨more, resolved', handed'⟩ := lays'.resolved
  refine ⟨⟨declared ++ more, .conditional place read resolved resolved',
    handed.append handed'⟩, .cons rfl ?_⟩
  exact (((macrosHygienic_of_readAt read).append lays.macros).append lays'.macros).append nofun

theorem forLoop (read : ReadAt tokens frame.lexical source)
    (lays : Lays tokens (frame.enterFor name).2 nodes inner) (most : Nat) :
    Lays tokens frame [.forLoop place name frame.nextSlot source nodes most] inner.leaveFor := by
  obtain ⟨declared, resolved, handed⟩ := lays.resolved
  obtain ⟨outer, loops⟩ := resolved.around
  have left : inner.leaveFor.lexical = frame.lexical := by
    have scopes : inner.outer = frame.scope :: frame.outer := outer
    have around : inner.loops = frame.nextSlot :: frame.loops := loops
    simp only [Frame.lexical, Frame.leaveFor, Frame.leaveScope, scopes, around, List.headD_cons,
      List.tail_cons]
  refine ⟨⟨.element name frame.nextSlot :: declared, ?_, ?_⟩, .cons rfl ?_⟩
  · rw [left]
    exact .forLoop place most read resolved
  · exact (Handed.element name frame.nextSlot).append handed
  · exact ((macrosHygienic_of_readAt read).append lays.macros).append nofun

theorem whileLoop (read : ReadAt tokens frame.lexical condition)
    (lays : Lays tokens frame.enterWhile.2 nodes inner) (most : Nat) :
    Lays tokens frame [.whileLoop place condition nodes frame.nextSlot most]
      inner.leaveScope := by
  obtain ⟨declared, resolved, handed⟩ := lays.resolved
  obtain ⟨outer, loops⟩ := resolved.around
  have left : inner.leaveScope.lexical = frame.lexical := by
    have scopes : inner.outer = frame.scope :: frame.outer := outer
    have around : inner.loops = frame.loops := loops
    simp only [Frame.lexical, Frame.leaveScope, scopes, around, List.headD_cons, List.tail_cons]
  refine ⟨⟨.count frame.nextSlot :: declared, ?_, ?_⟩, .cons rfl ?_⟩
  · rw [left]
    exact .whileLoop place most read resolved
  · exact (Handed.count frame.nextSlot).append handed
  · exact ((macrosHygienic_of_readAt read).append lays.macros).append nofun

theorem inclusion (read : ReadAt tokens frame.lexical target)
    (bound : ∀ binding ∈ bindings, ReadAt tokens frame.lexical binding.2) :
    Lays tokens frame [.inclusion place target bindings] frame :=
  ⟨⟨[], .inclusion place read bound, .nil _⟩, .cons rfl
    (((macrosHygienic_of_readAt read).append (macrosHygienic_of_bindings bound)).append nofun)⟩

theorem wrapper (read : ReadAt tokens frame.lexical target)
    (bound : ∀ binding ∈ bindings, ReadAt tokens frame.lexical binding.2)
    (lays : Lays tokens frame nodes frame') :
    Lays tokens frame [.wrapper place target bindings nodes] frame' := by
  obtain ⟨declared, resolved, handed⟩ := lays.resolved
  refine ⟨⟨declared, .wrapper place read bound resolved, handed⟩, .cons rfl ?_⟩
  exact ((lays.macros.append (macrosHygienic_of_readAt read)).append
    (macrosHygienic_of_bindings bound)).append nofun

end Lays

/-! ## Frames of their own -/

theorem lexical_ofParameters (parameters : List String) :
    (Frame.ofParameters parameters).lexical = .ofParameters parameters ∧
      (Frame.ofParameters parameters).nextSlot = parameters.length := by
  have grown : ∀ frame : Frame,
      parameters.foldl (fun frame name => (frame.declare name).2) frame =
        { frame with
          scope := (parameters.zipIdx frame.nextSlot).reverse ++ frame.scope
          nextSlot := frame.nextSlot + parameters.length } := by
    induction parameters with
    | nil => exact fun _ => rfl
    | cons name rest ih =>
        intro frame
        rw [List.foldl_cons, ih]
        simp only [Frame.declare, List.zipIdx_cons, List.reverse_cons, List.append_assoc,
          List.singleton_append, List.length_cons, Frame.mk.injEq, true_and, and_true]
        omega
  constructor
  · simp [Frame.ofParameters, grown, Frame.lexical, Lexical.ofParameters, Frame.empty]
  · simp [Frame.ofParameters, grown, Frame.empty]

/-- The nodes of a frame that starts with parameters keep the rules. -/
theorem Lays.hygienic {tokens : List Token} {parameters : List String} {nodes : List Node}
    {frame : Frame} (lays : Lays tokens (.ofParameters parameters) nodes frame) :
    Body.Hygienic tokens ⟨parameters, nodes⟩ := by
  obtain ⟨lexical, handedOut⟩ := lexical_ofParameters parameters
  obtain ⟨declared, resolved, handed⟩ := lays.resolved
  rw [lexical] at resolved
  rw [handedOut] at handed
  exact Body.hygienic_of_resolved resolved ((Handed.parameters parameters).append handed).nodup

theorem Lays.macroDef {tokens : List Token} {frame inner : Frame} {place : Place} {name : String}
    {parameters : List String} {nodes : List Node}
    (lays : Lays tokens (.ofParameters parameters) nodes inner) :
    Lays tokens frame [.macroDef place name parameters nodes] frame := by
  refine ⟨⟨[], .macroDef place name parameters nodes, .nil _⟩, ?_⟩
  refine List.forall_mem_cons.mpr ⟨?_, lays.macros.append nofun⟩
  rintro body ⟨⟩
  exact lays.hygienic

/-! ## Statements -/

section

variable {settings : Settings} {ground : Ground}

/-- A statement is an expression, or an assignment that only makes sense where its value is
dropped. -/
structure Stated (tokens : List Token) (frame : Frame) (value : Node) (frame' : Frame) : Prop where
  dropped : ∀ place, Lays tokens frame [.discard place value] frame'
  shown : (∀ place name slot operand, value ≠ .assign place name slot operand) →
    ∀ place, Lays tokens frame [.print place value] frame'

theorem written_of_assigned {tokens : List Token} {lexical : Lexical} {target : Node}
    {name : String} (read : ReadAt tokens lexical target)
    (assigned : assignedName? target = some name) : ⟨.ident, target.place, name⟩ ∈ tokens := by
  cases target with
  | localVar place name slot =>
      cases assigned
      exact (read _ List.mem_cons_self).1
  | symbol place name =>
      cases assigned
      exact (read _ List.mem_cons_self).1
  | _ => cases assigned

theorem turns_statement (allowance : Nat) :
    Turns settings ground (statement allowance)
      fun value frame _ => Stated ground.tokens ground.frame value frame := by
  refine .steady (steady_expression ground allowance) fun target read => ?_
  refine .steady Steady.peekKind fun kind _ => ?_
  split
  · exact .pure ⟨fun _ => .discard read, fun _ _ => .print read⟩
  · next assignment _ =>
      refine .steady Steady.nextToken fun token _ => ?_
      split
      · exact .fault _ _
      · next name assigned =>
          refine .steady (steady_expression ground allowance) fun operand read' => ?_
          refine .bind (.withFrame _) ?_
          rintro _ _ _ ⟨rfl, rfl, rfl⟩
          have written := written_of_assigned read assigned
          refine .pure ⟨fun place => ?_, fun other => absurd rfl (other _ _ _ _)⟩
          refine .assign rfl written (.plain target.place) ?_
          split
          · exact read'
          · exact readAt_around rfl trivial (List.forall_mem_append.mpr ⟨read, read'⟩)

theorem turns_setDirective (allowance : Nat) {token : Token} (written : token ∈ ground.tokens)
    (word : token.kind = .setWord) :
    Turns settings ground (setDirective allowance token.place)
      fun node frame _ => Lays ground.tokens ground.frame [node] frame := by
  obtain ⟨kind, place, text⟩ := token
  obtain rfl : kind = .setWord := word
  refine .steady (Steady.expectName _) fun name _ => .steady (Steady.expect _ _) fun _ _ => ?_
  refine .steady (steady_expression ground allowance) fun value read => ?_
  refine .steady Steady.expectClosing fun _ _ => .bind (.withFrame _) ?_
  rintro _ _ _ ⟨rfl, rfl, rfl⟩
  exact .pure (.assign rfl written (.set place text) read)

end

/-! ## Blocks -/

/-- The condition of a further branch is read where the branch before it ends. -/
def Ending.ReadAt (tokens : List Token) (lexical : Lexical) : Ending → Prop
  | .otherwiseIf _ condition => Node.ReadAt tokens lexical condition
  | _ => True

/-- What is known of a directive that was parsed between two states of a frame. -/
def Directive.Lays (tokens : List Token) (frame : Frame) (directive : Directive)
    (frame' : Frame) : Prop :=
  match directive with
  | .node made => Template.Lays tokens frame [made] frame'
  | .empty => frame' = frame
  | .close ending => frame' = frame ∧ ending.ReadAt tokens frame.lexical

/-- What the functions of the descent through blocks yield with an allowance. -/
structure Builds (settings : Settings) (allowance : Nat) : Prop where
  block : ∀ ground, Turns settings ground (block allowance) fun (nodes, ending) frame _ =>
    Lays ground.tokens ground.frame nodes frame ∧ ending.ReadAt ground.tokens frame.lexical
  body : ∀ ground, Turns settings ground (body allowance) fun nodes frame _ =>
    Lays ground.tokens ground.frame nodes frame
  directive : ∀ ground, Turns settings ground (directive allowance) fun directive frame _ =>
    directive.Lays ground.tokens ground.frame frame
  branches : ∀ {ground : Ground} {condition} place,
    ReadAt ground.tokens ground.frame.lexical condition →
    Turns settings ground (branches allowance place condition) fun node frame _ =>
      Lays ground.tokens ground.frame [node] frame
  forDirective : ∀ ground place, Turns settings ground (forDirective allowance place)
    fun node frame _ => Lays ground.tokens ground.frame [node] frame
  whileDirective : ∀ ground place, Turns settings ground (whileDirective allowance place)
    fun node frame _ => Lays ground.tokens ground.frame [node] frame
  macroDirective : ∀ ground place, Turns settings ground (macroDirective allowance place)
    fun node frame _ => Lays ground.tokens ground.frame [node] frame

theorem builds_zero (settings : Settings) : Builds settings 0 where
  block _ := .tooDeep
  body _ := .tooDeep
  directive _ := .tooDeep
  branches _ _ := .tooDeep
  forDirective _ _ := .tooDeep
  whileDirective _ _ := .tooDeep
  macroDirective _ _ := .tooDeep

namespace Builds

variable {settings : Settings} {allowance : Nat} (builds : Builds settings allowance)

include builds

theorem block_succ (ground : Ground) :
    Turns settings ground (Template.block (allowance + 1)) fun (nodes, ending) frame _ =>
      Lays ground.tokens ground.frame nodes frame ∧ ending.ReadAt ground.tokens frame.lexical := by
  refine .steady Steady.nextToken fun token _ => ?_
  split
  · refine .bind (builds.block ground) ?_
    rintro ⟨nodes, ending⟩ frame macros ⟨lays, read⟩
    exact .pure ⟨(Lays.text token.place token.value).append lays, read⟩
  · refine .bind (builds.directive ground) ?_
    rintro (node | _ | ending) frame macros found
    · refine .bind (builds.block _) ?_
      rintro ⟨nodes, ending⟩ frame' macros' ⟨lays, read⟩
      exact .pure ⟨found.append lays, read⟩
    · obtain rfl : frame = ground.frame := found
      exact builds.block ⟨ground.tokens, ground.frame, macros⟩
    · obtain ⟨rfl, read⟩ := found
      exact .pure ⟨.nil, read⟩
  · exact .pure ⟨.nil, trivial⟩
  · exact .unexpected _ _

theorem body_succ (ground : Ground) :
    Turns settings ground (Template.body (allowance + 1)) fun nodes frame _ =>
      Lays ground.tokens ground.frame nodes frame := by
  refine .bind (builds.block ground) ?_
  rintro ⟨nodes, ending⟩ frame macros ⟨lays, _⟩
  cases ending with
  | ofBlock token => exact .pure lays
  | _ =>
      have stops (token : Token) : Turns settings ⟨ground.tokens, frame, macros⟩
          (unexpected token "END" : Parse Unit) fun _ _ _ => False := .unexpected token _
      exact (stops _).bind fun _ _ _ => False.elim

theorem branches_succ {ground : Ground} (place : Place) {condition : Node}
    (read : ReadAt ground.tokens ground.frame.lexical condition) :
    Turns settings ground (Template.branches (allowance + 1) place condition) fun node frame _ =>
      Lays ground.tokens ground.frame [node] frame := by
  refine .bind (builds.block ground) ?_
  rintro ⟨positive, ending⟩ frame macros ⟨lays, read'⟩
  cases ending with
  | ofBlock token => exact .pure (.conditional read lays .nil)
  | otherwise token =>
      refine .bind (builds.body _) ?_
      intro negative frame' macros' lays'
      exact .pure (.conditional read lays lays')
  | otherwiseIf token next =>
      refine .bind (builds.branches _ read') ?_
      intro negative frame' macros' lays'
      exact .pure (.conditional read lays lays')
  | ofInput token => exact .unexpected _ _

theorem forDirective_succ (ground : Ground) (place : Place) :
    Turns settings ground (Template.forDirective (allowance + 1) place) fun node frame _ =>
      Lays ground.tokens ground.frame [node] frame := by
  refine .steady (Steady.expectName _) fun element _ => .steady Steady.nextToken fun token _ => ?_
  refine .ite ?_ (.unexpected _ _)
  refine .steady (steady_expression ground allowance) fun source read => ?_
  refine .steady Steady.expectClosing fun _ _ => .bind (.withFrame _) ?_
  rintro _ _ _ ⟨rfl, rfl, rfl⟩
  refine .bind (builds.body _) ?_
  intro nodes inner macros lays
  refine .bind (.modify Frame.leaveFor) ?_
  rintro _ _ _ ⟨rfl, rfl⟩
  refine .bind .read ?_
  rintro _ _ _ ⟨rfl, rfl, rfl⟩
  exact .pure (.forLoop read lays _)

theorem whileDirective_succ (ground : Ground) (place : Place) :
    Turns settings ground (Template.whileDirective (allowance + 1) place) fun node frame _ =>
      Lays ground.tokens ground.frame [node] frame := by
  refine .steady (steady_expression ground allowance) fun condition read => ?_
  refine .steady Steady.expectClosing fun _ _ => .bind (.withFrame _) ?_
  rintro _ _ _ ⟨rfl, rfl, rfl⟩
  refine .bind (builds.body _) ?_
  intro nodes inner macros lays
  refine .bind (.modify Frame.leaveScope) ?_
  rintro _ _ _ ⟨rfl, rfl⟩
  refine .bind .read ?_
  rintro _ _ _ ⟨rfl, rfl, rfl⟩
  exact .pure (.whileLoop read lays _)

theorem macroDirective_succ (ground : Ground) (place : Place) :
    Turns settings ground (Template.macroDirective (allowance + 1) place) fun node frame _ =>
      Lays ground.tokens ground.frame [node] frame := by
  refine .steady (Steady.expectName _) fun name _ => ?_
  refine .steady (steady_parameters _) fun parameters _ => ?_
  refine .steady (Steady.expect _ _) fun _ _ => .steady Steady.expectClosing fun _ _ => ?_
  refine .bind (.declareMacro name) ?_
  rintro _ _ macros ⟨rfl, _⟩
  refine .bind .get ?_
  rintro state _ _ ⟨same, rfl, rfl⟩
  refine .bind (.setFrame _) ?_
  rintro _ _ _ ⟨rfl, rfl⟩
  refine .bind (builds.body _) ?_
  intro nodes inner macros' lays
  refine .bind (.setFrame _) ?_
  rintro _ _ _ ⟨rfl, rfl⟩
  rw [same]
  exact .pure lays.macroDef

theorem directive_succ (ground : Ground) :
    Turns settings ground (Template.directive (allowance + 1)) fun directive frame _ =>
      directive.Lays ground.tokens ground.frame frame := by
  have one {parse : Parse Node} (turns : Turns settings ground parse fun node frame _ =>
      Lays ground.tokens ground.frame [node] frame) :
      Turns settings ground (do return Directive.node (← parse)) fun directive frame _ =>
        directive.Lays ground.tokens ground.frame frame :=
    turns.bind fun node frame macros lays => .pure lays
  refine .steady Steady.nextToken fun token among => ?_
  dsimp only
  split
  · exact .pure rfl
  · refine .steady (steady_expression ground allowance) fun value read => ?_
    exact .steady Steady.expectClosing fun _ _ => .pure (Lays.print read)
  · next word =>
      have written : token ∈ ground.tokens :=
        among.resolve_right fun ended => nomatch word.symm.trans ended
      exact one (turns_setDirective allowance written word)
  · refine .bind (turns_statement allowance) ?_
    intro value frame macros stated
    exact .steady Steady.expectClosing fun _ _ => .pure (stated.dropped _)
  · refine .steady (steady_expression ground allowance) fun condition read => ?_
    exact .steady Steady.expectClosing fun _ _ => one (builds.branches _ read)
  · refine .steady (steady_expression ground allowance) fun condition read => ?_
    refine .steady Steady.expectClosing fun _ _ => one (builds.branches _ ?_)
    exact readAt_around rfl trivial read
  · refine .steady (steady_expression ground allowance) fun condition read => ?_
    exact .steady Steady.expectClosing fun _ _ => .pure ⟨rfl, read⟩
  · exact .steady Steady.expectClosing fun _ _ => .pure ⟨rfl, trivial⟩
  · exact .steady Steady.expectClosing fun _ _ => .pure ⟨rfl, trivial⟩
  · exact one (builds.forDirective _ _)
  · exact one (builds.whileDirective _ _)
  · exact one (builds.macroDirective _ _)
  · refine .steady (steady_target (composes_readAt ground) allowance) ?_
    rintro ⟨template, bound⟩ ⟨read, reads⟩
    exact .pure (Lays.inclusion read reads)
  · refine .steady (steady_target (composes_readAt ground) allowance) ?_
    rintro ⟨template, bound⟩ ⟨read, reads⟩
    refine .bind (builds.body _) ?_
    intro nodes frame macros lays
    exact .pure (Lays.wrapper read reads lays)
  · refine .putBack among (.bind (turns_statement allowance) ?_)
    intro value frame macros stated
    refine .steady Steady.expectClosing fun _ _ => ?_
    split
    · exact .pure (stated.dropped _)
    · next other => exact .pure (stated.shown other _)

end Builds

/-- The descent through blocks, whatever its allowance. -/
theorem builds (settings : Settings) (allowance : Nat) : Builds settings allowance := by
  induction allowance with
  | zero => exact builds_zero settings
  | succ allowance ih =>
      exact {
        block := ih.block_succ
        body := ih.body_succ
        directive := ih.directive_succ
        branches := fun place => ih.branches_succ place
        forDirective := ih.forDirective_succ
        whileDirective := ih.whileDirective_succ
        macroDirective := ih.macroDirective_succ }

theorem turns_template (settings : Settings) (tokens : List Token) (allowance : Nat) :
    Turns settings ⟨tokens, .empty, []⟩ (template allowance) fun template frame _ =>
      Lays tokens .empty template.nodes frame := by
  refine .bind ((builds settings allowance).block _) ?_
  rintro ⟨nodes, ending⟩ frame macros ⟨lays, _⟩
  cases ending with
  | ofInput token =>
      refine .bind .read ?_
      rintro _ _ _ ⟨rfl, rfl, rfl⟩
      exact .pure lays
  | _ => exact .fault _ _

/-- In every frame of a parsed template the declarations share no slot, each name stands for the
variable that it has where it is written, and none for a slot that a loop keeps for itself. -/
theorem slots_hygienic {dialect : Token.Dialect} {name source : String}
    {template : Stencil.Template} (parsed : parse dialect name source = .ok template) :
    ∀ body ∈ template.frames, body.Hygienic (Token.scan dialect source) := by
  unfold parse ofTokens at parsed
  dsimp only at parsed
  generalize Token.scan dialect source = tokens at parsed ⊢
  have ended := turns_template ⟨name, dialect.closing, dialect.maxIterations⟩ tokens
    (allowanceFor tokens) ⟨.ofTokens tokens, .empty, []⟩
  simp only [ReaderT.run, StateT.run] at parsed
  generalize Template.template (allowanceFor tokens) _ _ = result at parsed ended
  cases result with
  | error problem => cases parsed
  | ok result =>
      obtain ⟨found, after⟩ := result
      cases parsed
      have lays := (ended found after ⟨Token.Stream.draws_ofTokens tokens, rfl, rfl⟩ rfl).2
      have whole : Body.Hygienic tokens ⟨[], found.nodes⟩ := Lays.hygienic lays
      refine List.forall_mem_cons.mpr ⟨whole, ?_⟩
      intro body inside
      obtain ⟨node, below, made⟩ := List.mem_filterMap.mp inside
      exact lays.macros node below body made

/-- Loops in a loop that hides a variable, and a macro with two parameters of one name. -/
def nested : String :=
  "[% x = 1 %][% FOREACH x IN y %][% SET x = loop %][% WHILE x %][% y = x %][% END %][% END %]" ++
    "[% MACRO m(a, a) BLOCK %][% b = a %][% END %]"

theorem nested_slots_hygienic :
    ∃ template, parse .standard "nested" nested = .ok template ∧ template.frames.length = 2 ∧
      ∀ body ∈ template.frames, body.Hygienic (Token.scan .standard nested) := by
  have parses : (parse .standard "nested" nested).toOption.map (·.frames.length) = some 2 := by
    decide +kernel
  cases made : parse .standard "nested" nested with
  | error problem =>
      rw [made] at parses
      cases parses
  | ok template =>
      rw [made] at parses
      exact ⟨template, rfl, Option.some.inj parses, slots_hygienic made⟩

end Stencil.Template

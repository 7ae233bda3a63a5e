import Mathlib
import Stencil.Proofs.Template.Frames
import Stencil.Proofs.Template.Hygiene
import Stencil.Proofs.Token.Ending

/-!
# How many slots a template has

No frame of a template has more slots than the template has tokens. Whatever takes slots is written
with as many tokens of its own: a loop over a list with its keyword, its variable and `IN`, a
conditional loop with its keyword, an assignment with its sign, a parameter with its name.
-/

namespace Stencil

namespace Node

/-- A node whose slots are below a bound, with those that a loop over a list has for itself. -/
def Below (bound : Nat) : Node → Prop
  | localVar _ _ slot | assign _ _ slot _ | whileLoop _ _ _ slot _ => slot < bound
  | loopVar _ slot | forLoop _ _ slot .. => slot + 2 < bound
  | _ => True

theorem Below.mono {bound more : Nat} {node : Node} (below : node.Below bound)
    (less : bound ≤ more) : node.Below more := by
  cases node with
  | localVar | assign | whileLoop | loopVar | forLoop => exact Nat.lt_of_lt_of_le below less
  | _ => trivial

/-- A node all whose parts have slots below a bound. -/
def Fits (bound : Nat) (node : Node) : Prop :=
  ∀ inner ∈ node.walk, inner.Below bound

def FitAll (bound : Nat) (nodes : List Node) : Prop :=
  ∀ inner ∈ walkAll nodes, inner.Below bound

section

variable {bound : Nat} {node : Node} {nodes rest : List Node}

theorem fits_leaf (walk : node.walk = [node]) (below : node.Below bound) : node.Fits bound := by
  unfold Fits
  rw [walk]
  exact List.forall_mem_singleton.mpr below

theorem fits_around {parts : List Node} (walk : node.walk = node :: parts)
    (below : node.Below bound) (others : ∀ inner ∈ parts, inner.Below bound) :
    node.Fits bound := by
  unfold Fits
  rw [walk]
  exact List.forall_mem_cons.mpr ⟨below, others⟩

theorem fitAll_nil (bound : Nat) : FitAll bound [] :=
  nofun

theorem fitAll_cons : FitAll bound (node :: nodes) ↔ node.Fits bound ∧ FitAll bound nodes :=
  List.forall_mem_append

end

end Node

namespace Template

open Node (Fits FitAll fits_leaf fits_around fitAll_nil fitAll_cons)
open Token (Kind)

/-! ## Frames -/

/-- What can be seen in a frame has slots below a bound. -/
structure Frame.Below (bound : Nat) (frame : Frame) : Prop where
  sees : ∀ slot, frame.Sees slot → slot < bound
  loops : ∀ slot ∈ frame.loops, slot + 2 < bound

/-- A frame hands out some slots from one on, and so many of them are new at most. -/
structure Frame.Hands (bound taken : Nat) (frame : Frame) (slot : Nat) (next : Frame) : Prop where
  below : next.Below bound
  slot : slot + taken ≤ bound
  count : next.nextSlot ≤ frame.nextSlot + taken

namespace Frame

variable {bound : Nat} {frame : Frame}

theorem hands_declare (below : frame.Below bound) (room : frame.nextSlot < bound) (name : String) :
    frame.Hands bound 1 (frame.declare name).1 (frame.declare name).2 := by
  refine ⟨⟨?_, below.loops⟩, room, Nat.le_refl _⟩
  intro slot seen
  obtain seen | later := (grows_declare frame name).sees slot seen
  · exact below.sees slot seen
  · -- A slot that is seen and was not before is the one that is handed out.
    obtain ⟨scope, inside, other, found⟩ := seen
    obtain rfl | inside := List.mem_cons.mp inside
    · obtain ⟨⟨⟩⟩ | found := List.mem_cons.mp found
      · exact room
      · exact below.sees slot ⟨_, List.mem_cons_self, other, found⟩
    · exact below.sees slot ⟨scope, List.mem_cons_of_mem _ inside, other, found⟩

theorem hands_assignable (below : frame.Below bound) (room : frame.nextSlot < bound)
    (name : String) : frame.Hands bound 1 (frame.assignable name).1 (frame.assignable name).2 := by
  unfold assignable
  split
  · next slot found =>
      obtain ⟨scope, inside, looked⟩ := List.exists_of_findSome?_eq_some found
      exact ⟨below, below.sees slot ⟨scope, inside, name, mem_of_lookup looked⟩, Nat.le_succ _⟩
  · exact hands_declare below room name

theorem hands_settable (below : frame.Below bound) (room : frame.nextSlot < bound)
    (name : String) : frame.Hands bound 1 (frame.settable name).1 (frame.settable name).2 := by
  unfold settable
  split
  · next slot found =>
      have seen : frame.Sees slot := ⟨_, List.mem_cons_self, name, mem_of_lookup found⟩
      exact ⟨below, below.sees slot seen, Nat.le_succ _⟩
  · exact hands_declare below room name

theorem hands_enterFor (below : frame.Below bound) (room : frame.nextSlot + 2 < bound)
    (element : String) :
    frame.Hands bound 3 (frame.enterFor element).1 (frame.enterFor element).2 := by
  refine ⟨⟨?_, List.forall_mem_cons.mpr ⟨room, below.loops⟩⟩, room, Nat.le_refl _⟩
  intro slot seen
  obtain rfl | seen := sees_enterFor seen
  · exact Nat.lt_of_le_of_lt (Nat.le_add_right _ 2) room
  · exact below.sees slot seen

theorem hands_enterWhile (below : frame.Below bound) (room : frame.nextSlot < bound) :
    frame.Hands bound 1 frame.enterWhile.1 frame.enterWhile.2 :=
  ⟨⟨fun slot seen => below.sees slot (sees_enterWhile seen), below.loops⟩, room, Nat.le_refl _⟩

theorem below_leaveScope (below : frame.Below bound) : frame.leaveScope.Below bound := by
  refine ⟨?_, below.loops⟩
  rintro slot ⟨scope, inside, name, found⟩
  refine below.sees slot ⟨scope, List.mem_cons_of_mem _ ?_, name, found⟩
  have behind : scope ∈ frame.outer.headD [] :: frame.outer.tail := inside
  cases outer : frame.outer with
  | nil =>
      rw [outer] at behind
      obtain rfl := List.mem_singleton.mp behind
      cases found
  | cons first others =>
      rw [outer] at behind
      exact behind

theorem below_leaveFor (below : frame.Below bound) : frame.leaveFor.Below bound :=
  ⟨(below_leaveScope below).sees, fun slot inside => below.loops slot (List.mem_of_mem_tail inside)⟩

theorem below_ofParameters {parameters : List String} (room : parameters.length ≤ bound) :
    (ofParameters parameters).Below bound := by
  obtain ⟨lexical, handed⟩ := lexical_ofParameters parameters
  constructor
  · intro slot seen
    exact Nat.lt_of_lt_of_le (within_ofParameters parameters slot seen) (handed ▸ room)
  · have loops : (ofParameters parameters).loops = [] := congrArg Lexical.loops lexical
    rw [loops]
    exact nofun

end Frame

/-! ## Parses that spend tokens -/

/-- What a frame has handed out, the tokens that are left and some that are spared make up no more
than a bound. -/
structure State.Spares (bound spared : Nat) (state : State) : Prop where
  below : state.frame.Below bound
  room : state.frame.nextSlot + state.stream.left + spared ≤ bound

variable {α β : Type}

/-- A parse that starts with some tokens spared ends with something good, and with so many tokens
spared. -/
def Spends (settings : Settings) (bound before : Nat) (parse : Parse α) (behind : α → Nat)
    (good : α → Prop) : Prop :=
  ∀ start value after, start.Spares bound before → parse settings start = .ok (value, after) →
    after.Spares bound (behind value) ∧ good value

namespace Spends

variable {settings : Settings} {bound before : Nat} {middle : α → Nat} {behind : β → Nat}
  {fine : α → Prop} {good : β → Prop}

theorem pure {value : β} (spared : behind value ≤ before) (holds : good value) :
    Spends settings bound before (Pure.pure value) behind good := by
  rintro start _ _ ⟨below, room⟩ ⟨⟩
  exact ⟨⟨below, by omega⟩, holds⟩

theorem bind {first : Parse α} {next : α → Parse β}
    (begun : Spends settings bound before first middle fine)
    (continued : ∀ value, fine value →
      Spends settings bound (middle value) (next value) behind good) :
    Spends settings bound before (first >>= next) behind good := by
  intro start value after spares ran
  obtain ⟨found, between, here, further⟩ := run_bind.mp ran
  obtain ⟨spares, holds⟩ := begun start found between spares here
  exact continued found holds between value after spares further

/-- What only reads tokens comes before. -/
theorem steady {first : Parse α} {next : α → Parse β}
    (begun : ∀ ground : Ground, ground.frame.Below bound → Steady ground first fine)
    (continued : ∀ value, fine value → Spends settings bound before (next value) behind good) :
    Spends settings bound before (first >>= next) behind good := by
  refine .bind ?_ continued
  intro start value after ⟨below, room⟩ ran
  have on : start.On ⟨_, start.frame, start.macros⟩ := ⟨start.stream.draws_self, rfl, rfl⟩
  obtain ⟨on, fewer, holds⟩ := begun _ below settings start value after on ran
  have same : after.frame = start.frame := on.frame
  refine ⟨⟨same ▸ below, ?_⟩, holds⟩
  show after.frame.nextSlot + after.stream.left + before ≤ bound
  rw [same]
  omega

theorem ite {condition : Prop} [Decidable condition] {first second : Parse β}
    (one : condition → Spends settings bound before first behind good)
    (other : ¬condition → Spends settings bound before second behind good) :
    Spends settings bound before (if condition then first else second) behind good := by
  split
  · next holds => exact one holds
  · next fails => exact other fails

theorem fault (token : Token) (problem : GrammarFault) :
    Spends settings bound before (Template.fault token problem : Parse β) behind good :=
  fun _ _ _ _ ran => nomatch ran

theorem unexpected (token : Token) (what : String) :
    Spends settings bound before (Template.unexpected token what : Parse β) behind good :=
  fault token _

theorem tooDeep : Spends settings bound before (Template.tooDeep : Parse β) behind good := by
  have peeks (ground : Ground) (_ : ground.frame.Below bound) :
      Steady ground peekToken fun _ => True :=
    Steady.peekToken.mono fun _ _ => trivial
  exact steady peeks fun _ _ => fault _ _

theorem mono {parse : Parse β} {less : Nat} {good' : β → Prop}
    (spends : Spends settings bound less parse behind good) (more : less ≤ before)
    (better : ∀ value, good value → good' value) :
    Spends settings bound before parse behind good' := by
  intro start value after ⟨below, room⟩ ran
  obtain ⟨spares, holds⟩ := spends start value after ⟨below, by omega⟩ ran
  exact ⟨spares, better value holds⟩

theorem nextToken : Spends settings bound before nextToken (before + ·.count) fun _ => True := by
  intro start value after ⟨below, room⟩ ran
  have fewer := start.stream.left_next
  obtain ⟨rfl, rfl⟩ := eq_of_checked ran
  refine ⟨⟨below, ?_⟩, trivial⟩
  show start.frame.nextSlot + start.stream.next.2.left + (before + start.stream.next.1.count) ≤ bound
  omega

theorem expect {kind : Kind} (real : kind ≠ .eof) (what : String) :
    Spends settings bound before (expect kind what) (fun _ => before + 1) fun _ => True := by
  refine nextToken.bind fun token _ => ?_
  split
  · next same =>
      rw [Token.count_of_kind same real]
      exact .pure (Nat.le_refl _) trivial
  · exact .unexpected _ _

theorem expectName (what : String) :
    Spends settings bound before (expectName what) (fun _ => before + 1) fun _ => True :=
  (expect (by decide) what).bind fun _ _ => .pure (Nat.le_refl _) trivial

/-- A token that was taken may be put back. -/
theorem putBack {token : Token} {next : Parse β}
    (continued : Spends settings bound before next behind good) :
    Spends settings bound (before + token.count) (putBack token >>= fun _ => next) behind good := by
  intro start value after ⟨below, room⟩ ran
  obtain ⟨_, _, ⟨⟩, further⟩ := run_bind.mp ran
  have more := start.stream.left_backup_le token
  exact continued { start with stream := start.stream.backup token } value after
    ⟨below, by dsimp only; omega⟩ further

theorem withFrame {taken : Nat} {change : Frame → Nat × Frame}
    (hands : ∀ frame : Frame, frame.Below bound → frame.nextSlot + taken ≤ bound →
      frame.Hands bound taken (change frame).1 (change frame).2) :
    Spends settings bound (before + taken) (withFrame change) (fun _ => before)
      fun slot => slot + taken ≤ bound := by
  rintro start _ _ ⟨below, room⟩ ⟨⟩
  obtain ⟨below, slot, count⟩ := hands start.frame below (by omega)
  exact ⟨⟨below, by dsimp only; omega⟩, slot⟩

theorem modify {change : Frame → Frame}
    (kept : ∀ frame : Frame, frame.Below bound → (change frame).Below bound)
    (count : ∀ frame, (change frame).nextSlot = frame.nextSlot) :
    Spends settings bound before
      (MonadState.modifyGet fun state => ((), { state with frame := change state.frame }))
      (fun _ => before) fun _ => True := by
  rintro start _ _ ⟨below, room⟩ ⟨⟩
  exact ⟨⟨kept _ below, by dsimp only; rw [count]; exact room⟩, trivial⟩

theorem declareMacro (name : String) :
    Spends settings bound before (declareMacro name) (fun _ => before) fun _ => True := by
  rintro start _ _ ⟨below, room⟩ ⟨⟩
  dsimp only
  split
  · exact ⟨⟨below, room⟩, trivial⟩
  · exact ⟨⟨below, room⟩, trivial⟩

end Spends

/-! ## Expressions -/

section

variable {bound : Nat} {ground : Ground}

theorem fits_resolve {frame : Frame} (below : frame.Below bound) (place : Place) (name : String) :
    (frame.resolve place name).Fits bound := by
  unfold Frame.resolve
  split
  · next slot found =>
      obtain ⟨scope, inside, looked⟩ := List.exists_of_findSome?_eq_some found
      exact fits_leaf rfl (below.sees slot ⟨scope, inside, name, Frame.mem_of_lookup looked⟩)
  · split
    · next slot outer loops _ =>
        exact fits_leaf rfl (below.loops slot (loops ▸ List.mem_cons_self))
    · exact fits_leaf rfl trivial

theorem composes_fits (below : ground.frame.Below bound) : Composes ground (Fits bound) where
  literal denoted := by
    obtain ⟨_, rfl⟩ | ⟨_, rfl⟩ | ⟨_, rfl⟩ := number_of_literal denoted
    all_goals exact fits_leaf rfl trivial
  string _ _ := fits_leaf rfl trivial
  bool _ _ := fits_leaf rfl trivial
  nil _ := fits_leaf rfl trivial
  name _ _ := fits_resolve below _ _
  field _ fits := fits_around rfl trivial fits
  index fits fits' := fits_around rfl trivial (List.forall_mem_append.mpr ⟨fits, fits'⟩)
  methodCall _ fits others := fits_around rfl trivial
    (List.forall_mem_append.mpr ⟨fits, Node.forall_walkAll others⟩)
  functionCall _ others := fits_around rfl trivial (Node.forall_walkAll others)
  macroCall _ others := fits_around rfl trivial (Node.forall_walkAll others)
  filter _ fits := fits_around rfl trivial fits
  unary _ fits := fits_around rfl trivial fits
  binary _ fits fits' := fits_around rfl trivial (List.forall_mem_append.mpr ⟨fits, fits'⟩)
  list others := fits_around rfl trivial (Node.forall_walkAll others)
  range fits fits' := fits_around rfl trivial (List.forall_mem_append.mpr ⟨fits, fits'⟩)

end

section

variable {settings : Settings} {bound before : Nat} {β : Type} {behind : β → Nat}
  {good : β → Prop}

theorem Spends.expression {allowance : Nat} {next : Node → Parse β}
    (continued : ∀ node, node.Fits bound → Spends settings bound before (next node) behind good) :
    Spends settings bound before (expression allowance >>= next) behind good :=
  .steady (fun _ below => (descends (composes_fits below) allowance).expression) continued

theorem Spends.target {allowance : Nat} {next : Node × List (String × Node) → Parse β}
    (continued : ∀ template bound', template.Fits bound →
      (∀ binding ∈ bound', Fits bound binding.2) →
      Spends settings bound before (next (template, bound')) behind good) :
    Spends settings bound before (target allowance >>= next) behind good :=
  .steady (fun _ below => steady_target (composes_fits below) allowance)
    fun (template, bound') ⟨fits, others⟩ => continued template bound' fits others

/-- A closing, or another token, whose value does not matter. -/
theorem Spends.expectClosing {next : Unit → Parse β}
    (continued : Spends settings bound before (next ()) behind good) :
    Spends settings bound before (expectClosing >>= next) behind good :=
  .steady (fun _ _ => Steady.expectClosing) fun _ _ => continued

/-! ## Statements -/

/-- The token that was looked at is the one that is taken next. -/
theorem kind_of_peeked {kind : Kind} {start between after : State} {token : Token}
    (peeked : peekKind settings start = .ok (kind, between))
    (taken : nextToken settings between = .ok (token, after)) : token.kind = kind := by
  obtain ⟨found, _, here, ⟨⟩⟩ := run_bind.mp peeked
  obtain ⟨rfl, rfl⟩ := eq_of_checked here
  obtain ⟨rfl, rfl⟩ := eq_of_checked taken
  rfl

theorem real_of_assignment {kind : Kind} {assignment : Assignment}
    (assigns : assignment? kind = some assignment) : kind ≠ .eof := by
  rintro rfl
  cases assigns

theorem Spends.ran {parse : Parse β} {start after : State} {value : β}
    (spends : Spends settings bound before parse behind good) (spares : start.Spares bound before)
    (ran : parse settings start = .ok (value, after)) :
    after.Spares bound (behind value) ∧ good value :=
  spends start value after spares ran

theorem spends_statement (allowance : Nat) :
    Spends settings bound before (statement allowance) (fun _ => before) (Fits bound) := by
  refine .expression fun target fits => ?_
  intro start value after spares ran
  obtain ⟨kind, between, peeked, ran⟩ := run_bind.mp ran
  have looked : between.Spares bound before := by
    have reads : Spends settings bound before (peekKind >>= Pure.pure) (fun _ => before)
        fun _ => True := .steady (fun _ _ => Steady.peekKind) fun _ _ => .pure (Nat.le_refl _) trivial
    exact (reads.ran spares (run_bind.mpr ⟨kind, between, peeked, rfl⟩)).1
  dsimp only at ran
  cases assigns : assignment? kind with
  | none =>
      rw [assigns] at ran
      cases ran
      exact ⟨looked, fits⟩
  | some assignment =>
      rw [assigns] at ran
      obtain ⟨token, further, taken, ran⟩ := run_bind.mp ran
      have spared := (Spends.nextToken.ran looked taken).1
      rw [Token.count_of_kind (kind_of_peeked peeked taken) (real_of_assignment assigns)] at spared
      refine @Spends.ran _ _ _ _ (fun _ => before) (Fits bound) _ _ _ _ ?_ spared ran
      split
      · exact .fault _ _
      · next name assigned =>
          refine .expression fun operand fits' => ?_
          refine (Spends.withFrame (fun frame below room =>
            Frame.hands_assignable below room name)).bind fun slot taken => ?_
          refine .pure (Nat.le_refl _) (fits_around rfl taken ?_)
          cases assignment with
          | plain => exact fits'
          | combined op =>
              exact List.forall_mem_cons.mpr ⟨trivial, List.forall_mem_append.mpr ⟨fits, fits'⟩⟩

theorem spends_setDirective (allowance : Nat) (place : Place) :
    Spends settings bound before (setDirective allowance place) (fun _ => before) (Fits bound) := by
  refine (Spends.expectName _).bind fun name _ => (Spends.expect (by decide) _).bind fun _ _ => ?_
  refine .expression fun operand fits => .expectClosing ?_
  refine (Spends.withFrame (fun frame below room =>
    Frame.hands_settable below room name)).bind fun slot taken => ?_
  exact .pure (Nat.le_succ _) (fits_around rfl trivial (List.forall_mem_cons.mpr ⟨taken, fits⟩))

/-- Each parameter is written with a name of its own. -/
theorem spends_moreParameters (allowance : Nat) :
    Spends settings bound before (moreParameters allowance) (before + ·.length)
      fun _ => True := by
  induction allowance generalizing before with
  | zero => exact .tooDeep
  | succ allowance ih =>
      refine (Spends.expectName _).bind fun name _ => Spends.nextToken.bind fun token _ => ?_
      split
      · refine (ih.mono (Nat.le_add_right ..) fun _ => id).bind fun names _ => ?_
        exact .pure (by rw [List.length_cons]; omega) trivial
      · exact .pure (Nat.le_add_right ..) trivial
      · exact .unexpected _ _

theorem spends_parameters (allowance : Nat) :
    Spends settings bound before (parameters allowance) (before + ·.length) fun _ => True := by
  refine .steady (fun _ _ => Steady.accept _) fun opened _ => ?_
  refine .ite (fun _ => .steady (fun _ _ => Steady.accept _) fun closed _ => ?_) fun _ => ?_
  · exact .ite (fun _ => .pure (Nat.le_refl _) trivial) fun _ => spends_moreParameters allowance
  · exact .pure (Nat.le_refl _) trivial

end

/-! ## Blocks -/

/-- The condition of a further branch has slots below a bound. -/
def Ending.Fits (bound : Nat) : Ending → Prop
  | .otherwiseIf _ condition => Node.Fits bound condition
  | _ => True

def Directive.Fits (bound : Nat) : Directive → Prop
  | .node made => Node.Fits bound made
  | .empty => True
  | .close ending => ending.Fits bound

/-- What the functions of the descent through blocks yield with an allowance. -/
structure Spending (settings : Settings) (allowance : Nat) : Prop where
  block : ∀ {bound before}, Spends settings bound before (block allowance) (fun _ => before)
    fun (nodes, ending) => FitAll bound nodes ∧ ending.Fits bound
  body : ∀ {bound before}, Spends settings bound before (body allowance) (fun _ => before)
    (FitAll bound)
  directive : ∀ {bound before}, Spends settings bound before (directive allowance)
    (fun _ => before) (Directive.Fits bound)
  branches : ∀ {bound before place condition}, Node.Fits bound condition →
    Spends settings bound before (branches allowance place condition) (fun _ => before)
      (Fits bound)
  forDirective : ∀ {bound before place}, Spends settings bound (before + 1)
    (forDirective allowance place) (fun _ => before) (Fits bound)
  whileDirective : ∀ {bound before place}, Spends settings bound (before + 1)
    (whileDirective allowance place) (fun _ => before) (Fits bound)
  macroDirective : ∀ {bound before place}, Spends settings bound before
    (macroDirective allowance place) (fun _ => before) (Fits bound)

theorem spending_zero (settings : Settings) : Spending settings 0 where
  block := .tooDeep
  body := .tooDeep
  directive := .tooDeep
  branches _ := .tooDeep
  forDirective := .tooDeep
  whileDirective := .tooDeep
  macroDirective := .tooDeep

namespace Spending

variable {settings : Settings} {allowance bound before : Nat} {place : Place}
  (spending : Spending settings allowance)

include spending

theorem block_succ : Spends settings bound before (Template.block (allowance + 1))
    (fun _ => before) fun (nodes, ending) => FitAll bound nodes ∧ ending.Fits bound := by
  refine Spends.nextToken.bind fun token _ => ?_
  split
  · refine (spending.block.mono (Nat.le_add_right ..) fun _ => id).bind ?_
    rintro ⟨nodes, ending⟩ ⟨fits, ends⟩
    exact .pure (Nat.le_refl _) ⟨fitAll_cons.mpr ⟨fits_leaf rfl trivial, fits⟩, ends⟩
  · refine (spending.directive.mono (Nat.le_add_right ..) fun _ => id).bind ?_
    rintro (node | _ | ending) found
    · refine spending.block.bind ?_
      rintro ⟨nodes, ending⟩ ⟨fits, ends⟩
      exact .pure (Nat.le_refl _) ⟨fitAll_cons.mpr ⟨found, fits⟩, ends⟩
    · exact spending.block
    · exact .pure (Nat.le_refl _) ⟨fitAll_nil bound, found⟩
  · exact .pure (Nat.le_add_right ..) ⟨fitAll_nil bound, trivial⟩
  · exact .unexpected _ _

theorem body_succ : Spends settings bound before (Template.body (allowance + 1)) (fun _ => before)
    (FitAll bound) := by
  refine spending.block.bind ?_
  rintro ⟨nodes, ending⟩ ⟨fits, _⟩
  cases ending with
  | ofBlock token => exact .pure (Nat.le_refl _) fits
  | _ =>
      have stops (token : Token) : Spends settings bound before
          (Template.unexpected token "END" : Parse Unit) (fun _ => before) fun _ => False :=
        .unexpected token _
      exact (stops _).bind fun _ => False.elim

theorem branches_succ {condition : Node} (fits : condition.Fits bound) :
    Spends settings bound before (Template.branches (allowance + 1) place condition)
      (fun _ => before) (Fits bound) := by
  have whole {positive negative : List Node} (first : FitAll bound positive)
      (second : FitAll bound negative) :
      (Node.conditional place condition positive negative).Fits bound :=
    fits_around rfl trivial
      (List.forall_mem_append.mpr ⟨List.forall_mem_append.mpr ⟨fits, first⟩, second⟩)
  refine spending.block.bind ?_
  rintro ⟨positive, ending⟩ ⟨first, ends⟩
  cases ending with
  | ofBlock token => exact .pure (Nat.le_refl _) (whole first (fitAll_nil bound))
  | otherwise token =>
      exact spending.body.bind fun negative second => .pure (Nat.le_refl _) (whole first second)
  | otherwiseIf token next =>
      refine (spending.branches ends).bind fun negative second => ?_
      exact .pure (Nat.le_refl _) (whole first (fitAll_cons.mpr ⟨second, fitAll_nil bound⟩))
  | ofInput token => exact .unexpected _ _

theorem forDirective_succ : Spends settings bound (before + 1)
    (Template.forDirective (allowance + 1) place) (fun _ => before) (Fits bound) := by
  refine (Spends.expectName _).bind fun element _ => Spends.nextToken.bind fun token _ => ?_
  refine .ite (fun said => ?_) fun _ => .unexpected _ _
  have third : token.count = 1 := by
    obtain same | same := said
    · exact Token.count_of_kind same (by decide)
    · exact Token.count_of_kind same (by decide)
  rw [third]
  refine .expression fun source fits => .expectClosing ?_
  refine (Spends.withFrame (fun frame below room => Frame.hands_enterFor below room element)).bind
    fun slot taken => ?_
  refine spending.body.bind fun nodes inside => ?_
  refine (Spends.modify (fun _ => Frame.below_leaveFor) fun _ => rfl).bind fun _ _ => ?_
  refine .steady (fun _ _ => Steady.settings) fun _ _ => ?_
  exact .pure (Nat.le_refl _)
    (fits_around rfl taken (List.forall_mem_append.mpr ⟨fits, inside⟩))

theorem whileDirective_succ : Spends settings bound (before + 1)
    (Template.whileDirective (allowance + 1) place) (fun _ => before) (Fits bound) := by
  refine .expression fun condition fits => .expectClosing ?_
  refine (Spends.withFrame (fun frame => Frame.hands_enterWhile)).bind fun slot taken => ?_
  refine spending.body.bind fun nodes inside => ?_
  refine (Spends.modify (fun _ => Frame.below_leaveScope) fun _ => rfl).bind fun _ _ => ?_
  refine .steady (fun _ _ => Steady.settings) fun _ _ => ?_
  exact .pure (Nat.le_refl _)
    (fits_around rfl taken (List.forall_mem_append.mpr ⟨fits, inside⟩))

/-- A body with a frame of its own counts slots from the start, and leaves the frame around as it
was. -/
theorem framed (name : String) (names : List String) : Spends settings bound (before + names.length)
    (do
      let outer := (← get).frame
      setFrame (.ofParameters names)
      let nodes ← Template.body allowance
      setFrame outer
      return Node.macroDef place name names nodes)
    (fun _ => before) (Fits bound) := by
  intro start value after ⟨below, room⟩ ran
  obtain ⟨_, _, ⟨⟩, ran⟩ := run_bind.mp ran
  obtain ⟨_, _, ⟨⟩, ran⟩ := run_bind.mp ran
  obtain ⟨nodes, inner, here, ran⟩ := run_bind.mp ran
  obtain ⟨_, _, ⟨⟩, ⟨⟩⟩ := run_bind.mp ran
  obtain ⟨_, handed⟩ := lexical_ofParameters names
  have fewer : bound - (start.frame.nextSlot + before) ≤ bound := Nat.sub_le ..
  have entered : State.Spares (bound - (start.frame.nextSlot + before)) 0
      { start with frame := .ofParameters names } := by
    refine ⟨Frame.below_ofParameters (by omega), ?_⟩
    show (Frame.ofParameters names).nextSlot + start.stream.left + 0 ≤ _
    omega
  obtain ⟨⟨_, left⟩, inside⟩ := spending.body.ran entered here
  refine ⟨⟨below, ?_⟩, fits_around rfl trivial fun inner among => (inside inner among).mono fewer⟩
  show start.frame.nextSlot + inner.stream.left + before ≤ bound
  omega

theorem macroDirective_succ : Spends settings bound before
    (Template.macroDirective (allowance + 1) place) (fun _ => before) (Fits bound) := by
  refine (Spends.expectName _).bind fun name _ => (spends_parameters _).bind fun names _ => ?_
  refine (Spends.expect (by decide) _).bind fun _ _ => .expectClosing ?_
  refine (Spends.declareMacro name).bind fun _ _ => ?_
  exact (spending.framed name names).mono (by omega) fun _ => id

theorem directive_succ : Spends settings bound before (Template.directive (allowance + 1))
    (fun _ => before) (Directive.Fits bound) := by
  have one {parse : Parse Node} {before' : Nat}
      (spends : Spends settings bound before' parse (fun _ => before) (Fits bound)) :
      Spends settings bound before' (do return Directive.node (← parse)) (fun _ => before)
        (Directive.Fits bound) :=
    spends.bind fun node fits => .pure (Nat.le_refl _) fits
  have shown {place : Place} {value : Node} (fits : value.Fits bound) :
      Directive.Fits bound (.node (.print place value)) := fits_around rfl trivial fits
  have dropped {place : Place} {value : Node} (fits : value.Fits bound) :
      Directive.Fits bound (.node (.discard place value)) := fits_around rfl trivial fits
  have negated {place : Place} {value : Node} (fits : value.Fits bound) :
      (Node.unary place .not value).Fits bound := fits_around rfl trivial fits
  refine Spends.nextToken.bind fun token _ => ?_
  have more : before ≤ before + token.count := Nat.le_add_right ..
  dsimp only
  split
  · exact .pure more trivial
  · exact .expression fun value fits => .expectClosing (.pure more (shown fits))
  · exact one ((spends_setDirective _ _).mono more fun _ => id)
  · exact ((spends_statement _).mono more fun _ => id).bind fun value fits =>
      .expectClosing (.pure (Nat.le_refl _) (dropped fits))
  · exact .expression fun condition fits => .expectClosing
      (one ((spending.branches fits).mono more fun _ => id))
  · exact .expression fun condition fits => .expectClosing
      (one ((spending.branches (negated fits)).mono more fun _ => id))
  · exact .expression fun condition fits => .expectClosing (.pure more fits)
  · exact .expectClosing (.pure more trivial)
  · exact .expectClosing (.pure more trivial)
  · next word =>
      rw [Token.count_of_kind word (by decide)]
      exact one spending.forDirective
  · next word =>
      rw [Token.count_of_kind word (by decide)]
      exact one spending.whileDirective
  · exact one (spending.macroDirective.mono more fun _ => id)
  · refine .target fun template bound' fits others => .pure more ?_
    exact fits_around rfl trivial
      (List.forall_mem_append.mpr ⟨fits, Node.forall_walkBindings others⟩)
  · refine .target fun template bound' fits others => ?_
    refine (spending.body.mono more fun _ => id).bind fun nodes inside => .pure (Nat.le_refl _) ?_
    exact fits_around rfl trivial (List.forall_mem_append.mpr
      ⟨List.forall_mem_append.mpr ⟨inside, fits⟩, Node.forall_walkBindings others⟩)
  · refine .putBack ((spends_statement _).bind fun value fits => .expectClosing ?_)
    split
    · exact .pure (Nat.le_refl _) (dropped fits)
    · exact .pure (Nat.le_refl _) (shown fits)

end Spending

/-- The descent through blocks, whatever its allowance. -/
theorem spending (settings : Settings) (allowance : Nat) : Spending settings allowance := by
  induction allowance with
  | zero => exact spending_zero settings
  | succ allowance ih =>
      exact {
        block := ih.block_succ
        body := ih.body_succ
        directive := ih.directive_succ
        branches := ih.branches_succ
        forDirective := ih.forDirective_succ
        whileDirective := ih.whileDirective_succ
        macroDirective := ih.macroDirective_succ }

theorem spends_template (settings : Settings) (bound allowance : Nat) :
    Spends settings bound 0 (template allowance) (fun _ => 0) fun template =>
      FitAll bound template.nodes := by
  refine (spending settings allowance).block.bind ?_
  rintro ⟨nodes, ending⟩ ⟨fits, _⟩
  cases ending with
  | ofInput token =>
      exact .steady (fun _ _ => Steady.settings) fun _ _ => .pure (Nat.le_refl _) fits
  | _ => exact .fault _ _

theorem sum_count_le (tokens : List Token) : (tokens.map Token.count).sum ≤ tokens.length := by
  induction tokens with
  | nil => exact Nat.le_refl _
  | cons token rest ih =>
      have one : token.count ≤ 1 := by
        unfold Token.count
        split <;> omega
      rw [List.map_cons, List.sum_cons, List.length_cons]
      omega

/-- A character takes at least one byte. -/
theorem length_toList_le (source : String) : source.toList.length ≤ source.utf8ByteSize := by
  suffices bytes : ∀ text : List Char, text.length ≤ (String.ofList text).utf8ByteSize by
    simpa only [String.ofList_toList] using bytes source.toList
  intro text
  induction text with
  | nil => exact Nat.zero_le _
  | cons c rest ih =>
      have positive := c.utf8Size_pos
      rw [String.ofList_cons, String.utf8ByteSize_append, String.utf8ByteSize_singleton,
        List.length_cons]
      omega

/-- The slots of a template are fewer than its tokens, of which each character and the ends give two
at most. -/
theorem slots_fewer {dialect : Token.Dialect} {name source : String}
    {template : Stencil.Template} (parsed : parse dialect name source = .ok template) :
    FitAll (2 * source.utf8ByteSize + 2) template.nodes := by
  unfold parse ofTokens at parsed
  dsimp only at parsed
  have few := Token.length_collect_le dialect (2 * source.toList.length + 2) (.start source)
  change (Token.scan dialect source).length ≤ _ at few
  generalize Token.scan dialect source = tokens at parsed few
  have ended := spends_template ⟨name, dialect.closing, dialect.maxIterations⟩
    (2 * source.utf8ByteSize + 2) (allowanceFor tokens) ⟨.ofTokens tokens, .empty, []⟩
  simp only [ReaderT.run, StateT.run] at parsed
  generalize Template.template (allowanceFor tokens) _ _ = result at parsed ended
  cases result with
  | error problem => cases parsed
  | ok result =>
      obtain ⟨found, after⟩ := result
      cases parsed
      refine (ended found after ⟨⟨?_, nofun⟩, ?_⟩ rfl).2
      · exact fun slot seen => absurd (Frame.within_empty slot seen) (Nat.not_lt_zero _)
      · have counted := sum_count_le tokens
        have small := length_toList_le source
        show 0 + (tokens.map Token.count).sum + 0 ≤ _
        omega

end Template

end Stencil

import Stencil.Proofs.Template.Steady

/-!
# The descent through expressions

Whatever is kept by the ways in which expressions are put together holds of every expression that is
parsed.
-/

namespace Stencil.Template

/-- What a literal denotes is a number. -/
theorem number_of_literal {place : Place} {source : String} {node : Node}
    (denoted : literal place source = .ok node) :
    (∃ n, node = .int place n) ∨ (∃ n, node = .uint place n) ∨ ∃ x, node = .float place x := by
  unfold literal at denoted
  dsimp only at denoted
  split at denoted
  · split at denoted <;> cases denoted
    exact .inl ⟨_, rfl⟩
  · split at denoted <;> cases denoted
    exact .inl ⟨_, rfl⟩
  · split at denoted
    · split at denoted <;> cases denoted
      exact .inr (.inr ⟨_, rfl⟩)
    · split at denoted
      · cases denoted
        exact .inl ⟨_, rfl⟩
      · split at denoted <;> cases denoted
        exact .inr (.inl ⟨_, rfl⟩)

/-- Something that holds of the leaves that a parse can find on its ground, and of a node with parts
when it holds of the parts. -/
structure Composes (ground : Ground) (good : Node → Prop) : Prop where
  literal : ∀ {place source node}, literal place source = .ok node → good node
  string : ∀ place content, good (.string place content)
  bool : ∀ place b, good (.bool place b)
  nil : ∀ place, good (.nil place)
  name : ∀ {token}, token ∈ ground.tokens → token.kind = .ident →
    good (ground.frame.resolve token.place token.value)
  field : ∀ {place container} name, good container → good (.field place container name)
  index : ∀ {place container position}, good container → good position →
    good (.index place container position)
  methodCall : ∀ {place invocant arguments} name, good invocant →
    (∀ argument ∈ arguments, good argument) → good (.methodCall place invocant name arguments)
  functionCall : ∀ {place arguments} name, (∀ argument ∈ arguments, good argument) →
    good (.functionCall place name arguments)
  macroCall : ∀ {place name arguments}, name ∈ ground.macros →
    (∀ argument ∈ arguments, good argument) → good (.macroCall place name arguments)
  filter : ∀ {place operand} name, good operand → good (.filter place operand name)
  unary : ∀ {place operand} op, good operand → good (.unary place op operand)
  binary : ∀ {place left right} op, good left → good right → good (.binary place op left right)
  list : ∀ {place items}, (∀ item ∈ items, good item) → good (.list place items)
  range : ∀ {place first last}, good first → good last → good (.range place first last)

/-- What the functions of the descent yield with an allowance. -/
structure Descends (ground : Ground) (good : Node → Prop) (allowance : Nat) : Prop where
  expression : Steady ground (expression allowance) good
  filters : ∀ operand, good operand → Steady ground (filters allowance operand) good
  binary : ∀ level, Steady ground (binary allowance level) good
  operators : ∀ level left, good left → Steady ground (operators allowance level left) good
  unary : Steady ground (unary allowance) good
  suffixes : ∀ operand, good operand → Steady ground (suffixes allowance operand) good
  arguments : Steady ground (arguments allowance) fun nodes => ∀ node ∈ nodes, good node
  moreArguments : Steady ground (moreArguments allowance) fun nodes => ∀ node ∈ nodes, good node
  primary : Steady ground (primary allowance) good
  listLiteral : ∀ place, Steady ground (listLiteral allowance place) good
  moreItems : Steady ground (moreItems allowance) fun nodes => ∀ node ∈ nodes, good node

variable {ground : Ground} {good : Node → Prop}

theorem descends_zero : Descends ground good 0 where
  expression := .tooDeep
  filters _ _ := .tooDeep
  binary _ := .tooDeep
  operators _ _ _ := .tooDeep
  unary := .tooDeep
  suffixes _ _ := .tooDeep
  arguments := .tooDeep
  moreArguments := .tooDeep
  primary := .tooDeep
  listLiteral _ := .tooDeep
  moreItems := .tooDeep

theorem steady_numeral (composes : Composes ground good) (token : Token) :
    Steady ground (numeral token) good := by
  unfold numeral
  split
  · next node denoted => exact .pure (composes.literal denoted)
  · exact .fault _ _

namespace Descends

variable {allowance : Nat} (composes : Composes ground good)
  (descends : Descends ground good allowance)

section

include descends

theorem expression_succ : Steady ground (Template.expression (allowance + 1)) good :=
  (descends.binary 0).bind descends.filters

theorem binary_succ (level : Nat) : Steady ground (Template.binary (allowance + 1) level) good :=
  .ite (fun _ => (descends.binary _).bind fun left holds => descends.operators _ left holds)
    fun _ => descends.unary

theorem arguments_succ :
    Steady ground (Template.arguments (allowance + 1)) fun nodes => ∀ node ∈ nodes, good node :=
  (Steady.accept _).andThen fun _ =>
    .ite (fun _ => .pure (List.forall_mem_nil _)) fun _ => descends.moreArguments

theorem moreArguments_succ :
    Steady ground (Template.moreArguments (allowance + 1))
      fun nodes => ∀ node ∈ nodes, good node := by
  refine descends.expression.bind fun first holds => Steady.nextToken.andThen fun token => ?_
  split
  · refine descends.moreArguments.bind fun rest others => ?_
    exact .pure (List.forall_mem_cons.mpr ⟨holds, others⟩)
  · exact .pure (List.forall_mem_singleton.mpr holds)
  · exact .unexpected _ _

theorem moreItems_succ :
    Steady ground (Template.moreItems (allowance + 1)) fun nodes => ∀ node ∈ nodes, good node := by
  refine Steady.nextToken.andThen fun token => ?_
  split
  · exact .pure (List.forall_mem_nil _)
  · refine (Steady.accept _).andThen fun _ => .ite (fun _ => .pure (List.forall_mem_nil _)) ?_
    refine fun _ => descends.expression.bind fun item holds => ?_
    refine descends.moreItems.bind fun rest others => ?_
    exact .pure (List.forall_mem_cons.mpr ⟨holds, others⟩)
  · exact .unexpected _ _

end

include composes descends

theorem filters_succ {operand : Node} (holds : good operand) :
    Steady ground (Template.filters (allowance + 1) operand) good := by
  refine Steady.peekKind.andThen fun _ => .ite (fun _ => ?_) fun _ => .pure holds
  refine Steady.nextToken.andThen fun _ => (Steady.expectName _).andThen fun name => ?_
  exact descends.filters _ (composes.filter name holds)

theorem operators_succ (level : Nat) {left : Node} (holds : good left) :
    Steady ground (Template.operators (allowance + 1) level left) good := by
  refine Steady.peekKind.andThen fun kind => ?_
  cases operatorAt? level kind with
  | none => exact .pure holds
  | some op =>
      refine Steady.nextToken.andThen fun _ => (descends.binary _).bind fun right holds' => ?_
      exact descends.operators _ _ (composes.binary op holds holds')

theorem unary_succ : Steady ground (Template.unary (allowance + 1)) good := by
  refine Steady.peekKind.andThen fun kind => ?_
  split
  · exact Steady.nextToken.andThen fun _ => descends.unary.bind fun _ holds =>
      .pure (composes.unary _ holds)
  · exact Steady.nextToken.andThen fun _ => descends.unary.bind fun _ holds =>
      .pure (composes.unary _ holds)
  · exact Steady.nextToken.andThen fun _ => descends.unary
  · exact descends.primary.bind descends.suffixes

theorem suffixes_succ {operand : Node} (holds : good operand) :
    Steady ground (Template.suffixes (allowance + 1) operand) good := by
  refine Steady.peekKind.andThen fun kind => ?_
  split
  · refine Steady.nextToken.andThen fun _ => Steady.peekKind.andThen fun _ => .ite ?_ ?_
    · refine fun _ => Steady.nextToken.andThen fun token => ?_
      refine (steady_numeral composes token).bind fun position holds' => ?_
      exact descends.suffixes _ (composes.index holds holds')
    · refine fun _ => (Steady.expectName _).andThen fun name => ?_
      refine (Steady.accept _).andThen fun _ => .ite (fun _ => ?_) fun _ => ?_
      · refine descends.arguments.bind fun arguments others => ?_
        exact descends.suffixes _ (composes.methodCall name holds others)
      · exact descends.suffixes _ (composes.field name holds)
  · refine Steady.nextToken.andThen fun _ => descends.expression.bind fun position holds' => ?_
    refine (Steady.expect _ _).andThen fun _ => ?_
    exact descends.suffixes _ (composes.index holds holds')
  · exact .pure holds

theorem primary_succ : Steady ground (Template.primary (allowance + 1)) good := by
  refine Steady.nextToken.bind fun token among => ?_
  dsimp only
  split
  · exact steady_numeral composes token
  · exact .pure (composes.string _ _)
  · exact .pure (composes.bool _ _)
  · exact .pure (composes.bool _ _)
  · exact .pure (composes.nil _)
  · refine descends.expression.bind fun inner holds => ?_
    exact (Steady.expect _ _).andThen fun _ => .pure holds
  · exact descends.listLiteral _
  · next ident =>
      refine (Steady.accept _).andThen fun _ => .ite (fun _ => ?_) fun _ => ?_
      · refine descends.arguments.bind fun arguments others => Steady.get.bind fun state on => ?_
        rw [on.macros]
        refine .ite (fun declared => ?_) fun _ => .pure (composes.functionCall _ others)
        exact .pure (composes.macroCall (List.contains_iff_mem.mp declared) others)
      · refine Steady.get.bind fun state on => ?_
        have inside : token ∈ ground.tokens :=
          among.resolve_right fun ended => nomatch ident.symm.trans ended
        rw [on.frame]
        exact .pure (composes.name inside ident)
  · exact .unexpected _ _

theorem listLiteral_succ (place : Place) :
    Steady ground (Template.listLiteral (allowance + 1) place) good := by
  refine (Steady.accept _).andThen fun _ => .ite
    (fun _ => .pure (composes.list (List.forall_mem_nil _))) fun _ => ?_
  refine descends.expression.bind fun first holds => (Steady.accept _).andThen fun _ => ?_
  refine .ite (fun _ => ?_) fun _ => ?_
  · refine descends.expression.bind fun last holds' => (Steady.expect _ _).andThen fun _ => ?_
    exact .pure (composes.range holds holds')
  · refine descends.moreItems.bind fun rest others => ?_
    exact .pure (composes.list (List.forall_mem_cons.mpr ⟨holds, others⟩))

end Descends

theorem descends (composes : Composes ground good) (allowance : Nat) :
    Descends ground good allowance := by
  induction allowance with
  | zero => exact descends_zero
  | succ allowance ih =>
      exact {
        expression := ih.expression_succ
        filters := fun _ => ih.filters_succ composes
        binary := ih.binary_succ
        operators := fun level _ => ih.operators_succ composes level
        unary := ih.unary_succ composes
        suffixes := fun _ => ih.suffixes_succ composes
        arguments := ih.arguments_succ
        moreArguments := ih.moreArguments_succ
        primary := ih.primary_succ composes
        listLiteral := ih.listLiteral_succ composes
        moreItems := ih.moreItems_succ }

/-! ## Expressions in directives -/

theorem steady_bindings (composes : Composes ground good) (allowance : Nat) :
    Steady ground (bindings allowance) fun bound => ∀ binding ∈ bound, good binding.2 := by
  induction allowance with
  | zero => exact .tooDeep
  | succ allowance ih =>
      refine (Steady.expectName _).andThen fun name => (Steady.expect _ _).andThen fun _ => ?_
      refine (descends composes allowance).expression.bind fun value holds => ?_
      refine (Steady.accept _).andThen fun _ => .ite (fun _ => ?_) fun _ => ?_
      · exact ih.bind fun rest others => .pure (List.forall_mem_cons.mpr ⟨holds, others⟩)
      · exact .pure (List.forall_mem_singleton.mpr holds)

theorem steady_target (composes : Composes ground good) (allowance : Nat) :
    Steady ground (target allowance) fun (template, bound) =>
      good template ∧ ∀ binding ∈ bound, good binding.2 := by
  refine (descends composes allowance).expression.bind fun template holds => ?_
  have closed (bound : List (String × Node)) (others : ∀ binding ∈ bound, good binding.2) :
      Steady ground (do expectClosing; return (template, bound)) fun (template, bound) =>
        good template ∧ ∀ binding ∈ bound, good binding.2 :=
    Steady.expectClosing.andThen fun _ => .pure ⟨holds, others⟩
  refine (Steady.accept _).andThen fun _ => .ite (fun _ => ?_) fun _ => ?_
  · exact (steady_bindings composes allowance).bind closed
  · exact closed [] (List.forall_mem_nil _)

theorem steady_moreParameters (allowance : Nat) :
    Steady ground (moreParameters allowance) fun _ => True := by
  induction allowance with
  | zero => exact .tooDeep
  | succ allowance ih =>
      refine (Steady.expectName _).andThen fun _ => Steady.nextToken.andThen fun _ => ?_
      split
      · exact ih.andThen fun _ => .pure trivial
      · exact .pure trivial
      · exact .unexpected _ _

theorem steady_parameters (allowance : Nat) :
    Steady ground (parameters allowance) fun _ => True :=
  (Steady.accept _).andThen fun _ => .ite
    (fun _ => (Steady.accept _).andThen fun _ =>
      .ite (fun _ => .pure trivial) fun _ => steady_moreParameters allowance)
    fun _ => .pure trivial

end Stencil.Template

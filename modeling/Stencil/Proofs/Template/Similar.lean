import Mathlib.Data.List.Forall2
import Stencil.Proofs.Template.Alike

/-!
# Expressions in two places

An expression that is parsed in one place is parsed in another, as a node that is put together alike.
The allowance may be another one too, as long as it grows with the count of tokens.
-/

namespace Stencil.Template

open Token (Kind)

/-- A call of a name: of a macro if there is one. -/
def Situation.call (situation : Situation) (place : Place) (name : String) (arguments : List Node) :
    Node :=
  if situation.macros.contains name then .macroCall place name arguments
  else .functionCall place name arguments

/-- Leaves that come from the same token are alike, and so are nodes whose parts are. -/
structure Likeness (comparison : Comparison) (like : Node → Node → Prop) : Prop where
  literal : ∀ {token token' node}, comparison.same token token' →
    literal token.place token.value = .ok node →
      ∃ node', literal token'.place token'.value = .ok node' ∧ like node node'
  string : ∀ {token token'}, comparison.same token token' →
    like (.string token.place token.value) (.string token'.place token'.value)
  bool : ∀ {token token'} b, comparison.same token token' →
    like (.bool token.place b) (.bool token'.place b)
  nil : ∀ {token token'}, comparison.same token token' → like (.nil token.place) (.nil token'.place)
  name : ∀ {token token'}, comparison.same token token' →
    like (comparison.before.frame.resolve token.place token.value)
      (comparison.before'.frame.resolve token'.place token'.value)
  call : ∀ {token token' arguments arguments'}, comparison.same token token' →
    List.Forall₂ like arguments arguments' →
      like (comparison.before.call token.place token.value arguments)
        (comparison.before'.call token'.place token'.value arguments')
  field : ∀ {token token' container container'} name, comparison.same token token' →
    like container container' →
      like (.field token.place container name) (.field token'.place container' name)
  index : ∀ {token token' container container' position position'}, comparison.same token token' →
    like container container' → like position position' →
      like (.index token.place container position) (.index token'.place container' position')
  methodCall : ∀ {token token' invocant invocant' arguments arguments'} name,
    comparison.same token token' → like invocant invocant' →
      List.Forall₂ like arguments arguments' →
        like (.methodCall token.place invocant name arguments)
          (.methodCall token'.place invocant' name arguments')
  filter : ∀ {token token' operand operand'} name, comparison.same token token' →
    like operand operand' →
      like (.filter token.place operand name) (.filter token'.place operand' name)
  unary : ∀ {token token' operand operand'} op, comparison.same token token' →
    like operand operand' → like (.unary token.place op operand) (.unary token'.place op operand')
  binary : ∀ {token token' left left' right right'} op, comparison.same token token' →
    like left left' → like right right' →
      like (.binary token.place op left right) (.binary token'.place op left' right')
  list : ∀ {token token' items items'}, comparison.same token token' →
    List.Forall₂ like items items' → like (.list token.place items) (.list token'.place items')
  range : ∀ {token token' first first' last last'}, comparison.same token token' →
    like first first' → like last last' →
      like (.range token.place first last) (.range token'.place first' last')

/-- What the functions of the descent parse with one allowance they parse with any other that the
tokens ask for. -/
structure Similar (comparison : Comparison) (like : Node → Node → Prop) (allowance : Nat) : Prop where
  expression : ∀ {run run'} other, comparison.Runs run run' → 16 * run.length + 10 ≤ other →
    Alike comparison 1 run run' (expression allowance) (expression other) like
  filters : ∀ {run run' operand operand'} other, comparison.Runs run run' →
    16 * run.length + 1 ≤ other → like operand operand' →
      Alike comparison 0 run run' (filters allowance operand) (filters other operand') like
  binary : ∀ {run run'} other level, comparison.Runs run run' →
    16 * run.length + 3 + (levels - level) ≤ other →
      Alike comparison 1 run run' (binary allowance level) (binary other level) like
  operators : ∀ {run run' left left'} other level, comparison.Runs run run' →
    16 * run.length + 1 ≤ other → like left left' →
      Alike comparison 0 run run' (operators allowance level left) (operators other level left') like
  unary : ∀ {run run'} other, comparison.Runs run run' → 16 * run.length + 2 ≤ other →
    Alike comparison 1 run run' (unary allowance) (unary other) like
  suffixes : ∀ {run run' operand operand'} other, comparison.Runs run run' →
    16 * run.length + 1 ≤ other → like operand operand' →
      Alike comparison 0 run run' (suffixes allowance operand) (suffixes other operand') like
  arguments : ∀ {run run'} other, comparison.Runs run run' → 16 * run.length + 12 ≤ other →
    Alike comparison 0 run run' (arguments allowance) (arguments other) (List.Forall₂ like)
  moreArguments : ∀ {run run'} other, comparison.Runs run run' → 16 * run.length + 11 ≤ other →
    Alike comparison 0 run run' (moreArguments allowance) (moreArguments other) (List.Forall₂ like)
  primary : ∀ {run run'} other, comparison.Runs run run' → 16 * run.length + 1 ≤ other →
    Alike comparison 1 run run' (primary allowance) (primary other) like
  listLiteral : ∀ {run run' token token'} other, comparison.Runs run run' →
    16 * run.length + 11 ≤ other → comparison.same token token' →
      Alike comparison 0 run run' (listLiteral allowance token.place) (listLiteral other token'.place)
        like
  moreItems : ∀ {run run'} other, comparison.Runs run run' → 16 * run.length + 1 ≤ other →
    Alike comparison 0 run run' (moreItems allowance) (moreItems other) (List.Forall₂ like)

variable {comparison : Comparison} {like : Node → Node → Prop}

theorem similar_zero : Similar comparison like 0 where
  expression _ _ _ := .tooDeep
  filters _ _ _ _ := .tooDeep
  binary _ _ _ _ := .tooDeep
  operators _ _ _ _ _ := .tooDeep
  unary _ _ _ := .tooDeep
  suffixes _ _ _ _ := .tooDeep
  arguments _ _ _ := .tooDeep
  moreArguments _ _ _ := .tooDeep
  primary _ _ _ := .tooDeep
  listLiteral _ _ _ _ := .tooDeep
  moreItems _ _ _ := .tooDeep

theorem alike_numeral (likeness : Likeness comparison like) {token token' : Token}
    {run run' : List Token} (runs : comparison.Runs run run') (same : comparison.same token token') :
    Alike comparison 0 run run' (numeral token) (numeral token') like := by
  unfold numeral
  cases denoted : literal token.place token.value with
  | error problem => exact .fault
  | ok node =>
      obtain ⟨node', denoted', holds⟩ := likeness.literal same denoted
      rw [denoted']
      exact .pure runs holds

namespace Similar

variable {allowance other : Nat} {run run' : List Token} (likeness : Likeness comparison like)
  (similar : Similar comparison like allowance) (runs : comparison.Runs run run')

include similar runs

theorem expression_succ (enough : 16 * run.length + 10 ≤ other) :
    Alike comparison 1 run run' (Template.expression (allowance + 1)) (Template.expression other)
      like := by
  obtain ⟨fewer, rfl⟩ := Nat.exists_eq_add_of_le' (Nat.le_trans (Nat.le_add_left 1 _) enough)
  have operand := similar.binary fewer 0 runs (by simp only [levels]; omega)
  refine operand.bind fun operand operand' left left' holds runs taken => ?_
  exact similar.filters fewer runs (by omega) holds

theorem binary_succ (level : Nat) (enough : 16 * run.length + 3 + (levels - level) ≤ other) :
    Alike comparison 1 run run' (Template.binary (allowance + 1) level) (Template.binary other level)
      like := by
  obtain ⟨fewer, rfl⟩ := Nat.exists_eq_add_of_le' (Nat.le_trans (Nat.le_add_left 1 _)
    (Nat.le_trans (Nat.le_add_right _ _) enough))
  unfold Template.binary
  split
  · refine (similar.binary fewer (level + 1) runs (by omega)).bind
      fun operand operand' left left' holds runs taken => ?_
    exact similar.operators fewer level runs (by omega) holds
  · exact similar.unary fewer runs (by omega)

theorem arguments_succ (enough : 16 * run.length + 12 ≤ other) :
    Alike comparison 0 run run' (Template.arguments (allowance + 1)) (Template.arguments other)
      (List.Forall₂ like) := by
  obtain ⟨fewer, rfl⟩ := Nat.exists_eq_add_of_le' (Nat.le_trans (Nat.le_add_left 1 _) enough)
  unfold Template.arguments
  refine Alike.accept runs nofun (fun left left' runs _ => ?_) ?_
  · exact .pure runs .nil
  · exact similar.moreArguments fewer runs (by omega)

theorem moreArguments_succ (enough : 16 * run.length + 11 ≤ other) :
    Alike comparison 0 run run' (Template.moreArguments (allowance + 1))
      (Template.moreArguments other) (List.Forall₂ like) := by
  obtain ⟨fewer, rfl⟩ := Nat.exists_eq_add_of_le' (Nat.le_trans (Nat.le_add_left 1 _) enough)
  unfold Template.moreArguments
  refine ((similar.expression fewer runs (by omega)).bind
    fun first first' left left' holds runs taken => ?_).weaken (Nat.zero_le 1)
  obtain ⟨token, token', behind, behind', same, rfl, rfl, further⟩ := runs.exists_cons
  refine (Alike.nextToken same ?_).weaken (Nat.zero_le 1)
  rw [comparison.kind same]
  split
  · next found =>
      have runs := further (by rw [found]; decide)
      simp only [List.length_cons] at taken
      refine (similar.moreArguments fewer runs (by omega)).bind
        fun others others' _ _ rest runs _ => ?_
      exact .pure runs (.cons holds rest)
  · next found => exact .pure (further (by rw [found]; decide)) (.cons holds .nil)
  · exact .unexpected

theorem moreItems_succ (enough : 16 * run.length + 1 ≤ other) :
    Alike comparison 0 run run' (Template.moreItems (allowance + 1)) (Template.moreItems other)
      (List.Forall₂ like) := by
  obtain ⟨fewer, rfl⟩ := Nat.exists_eq_add_of_le' (Nat.le_trans (Nat.le_add_left 1 _) enough)
  unfold Template.moreItems
  obtain ⟨token, token', behind, behind', same, rfl, rfl, further⟩ := runs.exists_cons
  refine (Alike.nextToken same ?_).weaken (Nat.zero_le 1)
  rw [comparison.kind same]
  simp only [List.length_cons] at enough
  split
  · next found => exact .pure (further (by rw [found]; decide)) .nil
  · next found =>
      have runs := further (by rw [found]; decide)
      refine Alike.accept runs nofun (fun left left' runs _ => .pure runs .nil) ?_
      refine ((similar.expression fewer runs (by omega)).bind
        fun item item' left left' holds runs taken => ?_).weaken (Nat.zero_le 1)
      refine (similar.moreItems fewer runs (by omega)).bind fun others others' _ _ rest runs _ => ?_
      exact .pure runs (.cons holds rest)
  · exact .unexpected

include likeness

theorem filters_succ {operand operand' : Node} (enough : 16 * run.length + 1 ≤ other)
    (holds : like operand operand') :
    Alike comparison 0 run run' (Template.filters (allowance + 1) operand)
      (Template.filters other operand') like := by
  obtain ⟨fewer, rfl⟩ := Nat.exists_eq_add_of_le' (Nat.le_trans (Nat.le_add_left 1 _) enough)
  unfold Template.filters
  obtain ⟨pipe, pipe', left, left', same, rfl, rfl, further⟩ := runs.exists_cons
  simp only [List.length_cons] at enough
  refine Alike.peekKind same ?_
  split
  · next found =>
      have runs := further (by rw [found]; decide)
      refine (Alike.nextToken same ?_).weaken (Nat.zero_le 1)
      refine (Alike.expectName runs fun name name' behind behind' same' runs taken => ?_).weaken
        (Nat.zero_le 1)
      rw [comparison.value same']
      exact similar.filters fewer runs (by omega) (likeness.filter _ same holds)
  · exact .pure runs holds

theorem operators_succ (level : Nat) {operand operand' : Node} (enough : 16 * run.length + 1 ≤ other)
    (holds : like operand operand') :
    Alike comparison 0 run run' (Template.operators (allowance + 1) level operand)
      (Template.operators other level operand') like := by
  obtain ⟨fewer, rfl⟩ := Nat.exists_eq_add_of_le' (Nat.le_trans (Nat.le_add_left 1 _) enough)
  unfold Template.operators
  obtain ⟨token, token', left, left', same, rfl, rfl, further⟩ := runs.exists_cons
  simp only [List.length_cons] at enough
  refine Alike.peekKind same ?_
  cases found : operatorAt? level token.kind with
  | none => exact .pure runs holds
  | some op =>
      have inner : token.kind ≠ .tagEnd := by
        intro ends
        rw [ends] at found
        unfold operatorAt? at found
        split at found <;> contradiction
      refine (Alike.nextToken same ?_).weaken (Nat.zero_le 1)
      have level' : levels - (level + 1) ≤ 6 := by simp only [levels]; omega
      refine ((similar.binary fewer (level + 1) (further inner) (by omega)).bind
        fun right right' behind behind' holds' runs taken => ?_).weaken (Nat.zero_le 1)
      exact similar.operators fewer level runs (by omega) (likeness.binary op same holds holds')

theorem unary_succ (enough : 16 * run.length + 2 ≤ other) :
    Alike comparison 1 run run' (Template.unary (allowance + 1)) (Template.unary other) like := by
  obtain ⟨fewer, rfl⟩ := Nat.exists_eq_add_of_le' (Nat.le_trans (Nat.le_add_left 1 _) enough)
  unfold Template.unary
  obtain ⟨token, token', left, left', same, rfl, rfl, further⟩ := runs.exists_cons
  have shorter := enough
  simp only [List.length_cons] at shorter
  refine Alike.peekKind same ?_
  have signed (op : Node.UnaryOp) (inner : token.kind ≠ .tagEnd) :
      Alike comparison 1 (token :: left) (token' :: left')
        (do
          let token ← nextToken
          let operand ← Template.unary allowance
          return .unary token.place op operand)
        (do
          let token ← nextToken
          let operand ← Template.unary fewer
          return .unary token.place op operand) like := by
    refine Alike.nextToken same ?_
    refine ((similar.unary fewer (further inner) (by omega)).bind
      fun operand operand' _ _ holds runs _ => ?_).weaken (Nat.zero_le 1)
    exact .pure runs (likeness.unary op same holds)
  split
  · next found => exact signed .not (by rw [found]; decide)
  · next found => exact signed .neg (by rw [found]; decide)
  · next found =>
      refine Alike.nextToken same ?_
      exact (similar.unary fewer (further (by rw [found]; decide)) (by omega)).weaken (Nat.zero_le 1)
  · refine (similar.primary fewer runs (by omega)).bind
      fun operand operand' left left' holds runs taken => ?_
    exact similar.suffixes fewer runs (by omega) holds

theorem suffixes_succ {operand operand' : Node} (enough : 16 * run.length + 1 ≤ other)
    (holds : like operand operand') :
    Alike comparison 0 run run' (Template.suffixes (allowance + 1) operand)
      (Template.suffixes other operand') like := by
  obtain ⟨fewer, rfl⟩ := Nat.exists_eq_add_of_le' (Nat.le_trans (Nat.le_add_left 1 _) enough)
  unfold Template.suffixes
  obtain ⟨token, token', left, left', same, rfl, rfl, further⟩ := runs.exists_cons
  simp only [List.length_cons] at enough
  refine Alike.peekKind same ?_
  split
  · next found =>
      have runs := further (by rw [found]; decide)
      refine (Alike.nextToken same ?_).weaken (Nat.zero_le 1)
      obtain ⟨second, second', behind, behind', same', rfl, rfl, further'⟩ := runs.exists_cons
      simp only [List.length_cons] at enough
      refine Alike.peekKind same' ?_
      split
      · next number =>
          refine (Alike.nextToken same' ?_).weaken (Nat.zero_le 1)
          refine (alike_numeral likeness (further' (by rw [number]; decide)) same').bind
            fun position position' last last' holds' runs taken => ?_
          exact similar.suffixes fewer runs (by omega) (likeness.index same holds holds')
      · refine (Alike.expectName runs fun name name' last last' named runs taken => ?_).weaken
          (Nat.zero_le 1)
        simp only [List.length_cons] at taken
        rw [comparison.value named]
        refine Alike.accept runs nofun (fun inner inner' runs taken' => ?_) ?_
        · refine (similar.arguments fewer runs (by omega)).bind
            fun arguments arguments' rest rest' holds' runs taken => ?_
          exact similar.suffixes fewer runs (by omega) (likeness.methodCall _ same holds holds')
        · exact similar.suffixes fewer runs (by omega) (likeness.field _ same holds)
  · next found =>
      have runs := further (by rw [found]; decide)
      refine (Alike.nextToken same ?_).weaken (Nat.zero_le 1)
      refine ((similar.expression fewer runs (by omega)).bind
        fun position position' behind behind' holds' runs taken => ?_).weaken (Nat.zero_le 1)
      refine (Alike.expect runs (by decide) fun _ _ last last' _ _ runs taken => ?_).weaken (Nat.zero_le 1)
      exact similar.suffixes fewer runs (by omega) (likeness.index same holds holds')
  · exact .pure runs holds

theorem primary_succ (enough : 16 * run.length + 1 ≤ other) :
    Alike comparison 1 run run' (Template.primary (allowance + 1)) (Template.primary other) like := by
  obtain ⟨fewer, rfl⟩ := Nat.exists_eq_add_of_le' (Nat.le_trans (Nat.le_add_left 1 _) enough)
  unfold Template.primary
  obtain ⟨token, token', left, left', same, rfl, rfl, further⟩ := runs.exists_cons
  simp only [List.length_cons] at enough
  refine Alike.nextToken same ?_
  dsimp only
  rw [comparison.kind same]
  split
  · next found => exact alike_numeral likeness (further (by rw [found]; decide)) same
  · next found => exact .pure (further (by rw [found]; decide)) (likeness.string same)
  · next found => exact .pure (further (by rw [found]; decide)) (likeness.bool true same)
  · next found => exact .pure (further (by rw [found]; decide)) (likeness.bool false same)
  · next found => exact .pure (further (by rw [found]; decide)) (likeness.nil same)
  · next found =>
      refine ((similar.expression fewer (further (by rw [found]; decide)) (by omega)).bind
        fun inner inner' behind behind' holds runs taken => ?_).weaken (Nat.zero_le 1)
      exact (Alike.expect runs (by decide) fun _ _ _ _ _ _ runs _ => .pure runs holds).weaken
        (Nat.zero_le 1)
  · next found => exact similar.listLiteral fewer (further (by rw [found]; decide)) (by omega) same
  · next found =>
      rw [comparison.value same]
      refine Alike.accept (further (by rw [found]; decide)) nofun
        (fun behind behind' runs taken => ?_) ?_
      · refine (similar.arguments fewer runs (by omega)).bind
          fun arguments arguments' last last' holds runs _ => ?_
        refine Alike.get fun state state' _ named _ named' => ?_
        have alike := likeness.call same holds
        rw [comparison.value same] at alike
        unfold Situation.call at alike
        rw [named, named', ← apply_ite Pure.pure, ← apply_ite Pure.pure]
        exact .pure runs alike
      · refine Alike.get fun state state' framed _ framed' _ => ?_
        rw [framed, framed']
        have alike := likeness.name same
        rw [comparison.value same] at alike
        exact .pure (further (by rw [found]; decide)) alike
  · exact .unexpected

theorem listLiteral_succ {token token' : Token} (enough : 16 * run.length + 11 ≤ other)
    (same : comparison.same token token') :
    Alike comparison 0 run run' (Template.listLiteral (allowance + 1) token.place)
      (Template.listLiteral other token'.place) like := by
  obtain ⟨fewer, rfl⟩ := Nat.exists_eq_add_of_le' (Nat.le_trans (Nat.le_add_left 1 _) enough)
  unfold Template.listLiteral
  refine Alike.accept runs nofun (fun left left' runs _ => .pure runs (likeness.list same .nil)) ?_
  refine ((similar.expression fewer runs (by omega)).bind
    fun first first' left left' holds runs taken => ?_).weaken (Nat.zero_le 1)
  refine Alike.accept runs nofun (fun behind behind' runs taken' => ?_) ?_
  · refine ((similar.expression fewer runs (by omega)).bind
      fun last last' _ _ holds' runs _ => ?_).weaken (Nat.zero_le 1)
    exact (Alike.expect runs (by decide) fun _ _ _ _ _ _ runs _ =>
      .pure runs (likeness.range same holds holds')).weaken (Nat.zero_le 1)
  · refine (similar.moreItems fewer runs (by omega)).bind fun items items' _ _ holds' runs _ => ?_
    exact .pure runs (likeness.list same (.cons holds holds'))

end Similar

theorem similar (likeness : Likeness comparison like) (allowance : Nat) :
    Similar comparison like allowance := by
  induction allowance with
  | zero => exact similar_zero
  | succ allowance ih =>
      exact {
        expression := fun _ runs => ih.expression_succ runs
        filters := fun _ runs => ih.filters_succ likeness runs
        binary := fun _ level runs => ih.binary_succ runs level
        operators := fun _ level runs => ih.operators_succ likeness runs level
        unary := fun _ runs => ih.unary_succ likeness runs
        suffixes := fun _ runs => ih.suffixes_succ likeness runs
        arguments := fun _ runs => ih.arguments_succ runs
        moreArguments := fun _ runs => ih.moreArguments_succ runs
        primary := fun _ runs => ih.primary_succ likeness runs
        listLiteral := fun _ runs => ih.listLiteral_succ likeness runs
        moreItems := fun _ runs => ih.moreItems_succ runs }

end Stencil.Template

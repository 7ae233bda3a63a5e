import Stencil.Proofs.Template.Printed
import Stencil.Proofs.Template.Again

/-!
# Printing and parsing

A printed expression is scanned to the tokens that it was printed from, and parsed as its tree.
-/

namespace Stencil.Template

open Node (UnaryOp BinaryOp)
open Token (Kind Lexeme Following content)

/-! ## Scanning -/

/-- Behind this token a number may have a sign and a fraction. -/
structure Awaits (last : Option Kind) : Prop where
  undotted : last ≠ some .dot
  signed : last.any Kind.endsOperand = false

namespace Expression

variable {last : Option Kind} {rest : List Lexeme}

theorem follows_number (awaits : Awaits last) (negative : Bool) (n : Nat) :
    (number negative n).Follows last := by
  cases negative with
  | false => exact fun dotted => absurd dotted awaits.undotted
  | true => exact awaits.signed

theorem following_enclosed {lexemes : List Lexeme}
    (inside : ∀ {last rest}, Awaits last → (∀ kind, Following (some kind) rest) →
      Following last (lexemes ++ rest))
    (loose : Bool) (awaits : Awaits last) (after : ∀ kind, Following (some kind) rest) :
    Following last (enclosed loose lexemes ++ rest) := by
  cases loose with
  | false => exact inside awaits after
  | true =>
      simp only [enclosed, if_true, List.cons_append, List.append_assoc, List.nil_append]
      exact ⟨trivial, inside ⟨nofun, rfl⟩ fun _ => ⟨trivial, after _⟩⟩

mutual

/-- In a printed expression signs and fractions are not taken for operators and dots. -/
theorem following : (expression : Expression) → ∀ {last rest}, Awaits last →
    (∀ kind, Following (some kind) rest) → Following last (expression.lexemes ++ rest)
  | int _, _, _, awaits, after => ⟨follows_number awaits _ _, after _⟩
  | uint _ _, _, _, awaits, after => ⟨follows_number awaits _ _, after _⟩
  | string _, _, _, _, after | bool _, _, _, _, after | nil, _, _, _, after
  | symbol _, _, _, _, after => ⟨trivial, after _⟩
  | field container name, _, _, awaits, after => by
      rw [lexemes, List.append_assoc]
      exact following_enclosed (following container) _ awaits
        fun _ => ⟨trivial, trivial, after _⟩
  | index container position, _, _, awaits, after => by
      simp only [lexemes, List.append_assoc, List.cons_append, List.nil_append]
      exact following_enclosed (following container) _ awaits fun _ =>
        ⟨trivial, following position ⟨nofun, rfl⟩ fun _ => ⟨trivial, after _⟩⟩
  | methodCall invocant name arguments, _, _, awaits, after => by
      simp only [lexemes, List.append_assoc, List.cons_append, List.nil_append]
      exact following_enclosed (following invocant) _ awaits fun _ =>
        ⟨trivial, trivial, trivial, following_items arguments ⟨nofun, rfl⟩ fun _ => ⟨trivial, after _⟩⟩
  | functionCall name arguments, _, _, _, after => by
      simp only [lexemes, List.append_assoc, List.cons_append, List.nil_append]
      exact ⟨trivial, trivial, following_items arguments ⟨nofun, rfl⟩ fun _ => ⟨trivial, after _⟩⟩
  | filter operand name, _, _, awaits, after => by
      rw [lexemes, List.append_assoc]
      exact following operand awaits fun _ => ⟨trivial, trivial, after _⟩
  | unary .not operand, _, _, _, after | unary .neg operand, _, _, _, after =>
      ⟨trivial, following_enclosed (following operand) _ ⟨nofun, rfl⟩ after⟩
  | binary op left right, _, _, awaits, after => by
      simp only [lexemes, List.append_assoc, List.cons_append]
      refine following_enclosed (following left) _ awaits fun _ => ⟨trivial, ?_⟩
      exact following_enclosed (following right) _ (by cases op <;> exact ⟨nofun, rfl⟩) after
  | list items, _, _, _, after => by
      simp only [lexemes, List.append_assoc, List.cons_append, List.nil_append]
      exact ⟨trivial, following_items items ⟨nofun, rfl⟩ fun _ => ⟨trivial, after _⟩⟩
  | range first last, _, _, _, after => by
      simp only [lexemes, List.append_assoc, List.cons_append, List.nil_append]
      exact ⟨trivial, following first ⟨nofun, rfl⟩ fun _ =>
        ⟨trivial, following last ⟨nofun, rfl⟩ fun _ => ⟨trivial, after _⟩⟩⟩

theorem following_items : (items : List Expression) → ∀ {kind rest}, Awaits (some kind) →
    (∀ kind, Following (some kind) rest) → Following (some kind) (itemsLexemes items ++ rest)
  | [], kind, _, _, after => after kind
  | first :: items, _, _, awaits, after => by
      rw [itemsLexemes, List.append_assoc]
      exact following first awaits fun _ => following_more items after _

theorem following_more : (items : List Expression) → ∀ {rest},
    (∀ kind, Following (some kind) rest) → ∀ kind, Following (some kind) (moreLexemes items ++ rest)
  | [], _, after, kind => after kind
  | next :: items, _, after, _ => by
      rw [moreLexemes, List.cons_append, List.append_assoc]
      exact ⟨trivial, following next ⟨nofun, rfl⟩ fun _ => following_more items after _⟩

end

end Expression

theorem isInner_kind (lexeme : Lexeme) : lexeme.kind.isInner = true := by
  cases lexeme with
  | symbol symbol listed => exact Token.isInner_of_standard symbol listed
  | _ => rfl

/-! ## The same tokens elsewhere -/

/-- Tokens of the same content, with nothing behind but the end of the input. -/
def elsewhere (settings : Settings) (last : Token) : Comparison where
  settings := settings
  before := .plain
  before' := .plain
  rest := [last]
  rest' := [last]
  same token token' := content token' = content token
  kind same := congrArg Prod.fst same
  value same := congrArg Prod.snd same

theorem unplacedAll_of_forall₂ {nodes nodes' : List Node}
    (alike : List.Forall₂ (fun node node' => node'.unplaced = node.unplaced) nodes nodes') :
    Node.unplacedAll nodes' = Node.unplacedAll nodes := by
  induction alike with
  | nil => rfl
  | cons first _ ih => rw [Node.unplacedAll, Node.unplacedAll, first, ih]

theorem map_unplaced_literal (place place' : Place) (source : String) :
    (literal place' source).map Node.unplaced = (literal place source).map Node.unplaced := by
  unfold literal
  obtain ⟨negative, digits⟩ := Decimal.takeSign source.toList
  dsimp only
  split
  · split <;> rfl
  · split <;> rfl
  · split
    · split <;> rfl
    · split
      · rfl
      · split <;> rfl

theorem literal_elsewhere {place : Place} (place' : Place) {source : String} {node : Node}
    (denoted : literal place source = .ok node) :
    ∃ node', literal place' source = .ok node' ∧ node'.unplaced = node.unplaced := by
  have same := map_unplaced_literal place place' source
  rw [denoted] at same
  cases denoted' : literal place' source with
  | error problem =>
      rw [denoted'] at same
      cases same
  | ok node' =>
      rw [denoted'] at same
      exact ⟨node', rfl, Except.ok.inj same⟩

theorem unplaced_resolve (frame : Frame) (place place' : Place) (name : String) :
    (frame.resolve place' name).unplaced = (frame.resolve place name).unplaced := by
  unfold Frame.resolve
  split
  · rfl
  · split <;> rfl

theorem likeness_elsewhere (settings : Settings) (last : Token) :
    Likeness (elsewhere settings last) fun node node' => node'.unplaced = node.unplaced where
  literal {token token'} node same denoted := by
    rw [(elsewhere settings last).value same]
    exact literal_elsewhere token'.place denoted
  string same := congrArg (Node.string .start) ((elsewhere settings last).value same)
  bool _ _ := rfl
  nil _ := rfl
  name {token token'} same := by
    rw [(elsewhere settings last).value same]
    exact unplaced_resolve _ _ _ _
  call {token token' arguments arguments'} same alike := by
    rw [(elsewhere settings last).value same]
    exact congrArg (Node.functionCall .start token.value) (unplacedAll_of_forall₂ alike)
  field name _ container := congrArg (Node.field .start · name) container
  index _ container position := congrArg₂ (Node.index .start) container position
  methodCall name _ invocant arguments :=
    congrArg₂ (Node.methodCall .start · name ·) invocant (unplacedAll_of_forall₂ arguments)
  filter name _ operand := congrArg (Node.filter .start · name) operand
  unary op _ operand := congrArg (Node.unary .start op) operand
  binary op _ left right := congrArg₂ (Node.binary .start op) left right
  list _ items := congrArg (Node.list .start) (unplacedAll_of_forall₂ items)
  range _ first last := congrArg₂ (Node.range .start) first last

/-! ## Parsing -/

variable {settings : Settings}

/-- The tokens of a printed expression in a tag. -/
structure Inside (expression : Expression) (inner : List Token) (closing : Token) : Prop where
  same : inner.map content = expression.lexemes.map Lexeme.content
  closes : closing.kind = .tagEnd

theorem Inside.runs {expression : Expression} {inner : List Token} {closing : Token}
    (inside : Inside expression inner closing) (ending : Token) :
    (elsewhere settings ending).Runs (tokensOf expression.lexemes ++ [closing])
      (inner ++ [closing]) := by
  refine .of_forall₂ ?_ ?_ rfl inside.closes
  · have written : (tokensOf expression.lexemes).map content = inner.map content :=
      List.map_map.trans inside.same.symm
    rw [← List.forall₂_eq_eq_eq, List.forall₂_map_left_iff, List.forall₂_map_right_iff] at written
    exact written.imp fun _ _ => Eq.symm
  · intro token written
    obtain ⟨lexeme, -, rfl⟩ := List.mem_map.mp written
    intro (ends : lexeme.kind = .tagEnd)
    have inner := isInner_kind lexeme
    rw [ends] at inner
    cases inner

/-- The tokens of a printed expression are read as its tree, up to the closing. -/
theorem Inside.takes {expression : Expression} {inner : List Token} {closing : Token}
    (inside : Inside expression inner closing) (ending : Token) :
    ∃ node closing', node.unplaced = expression.node.unplaced ∧ closing'.kind = .tagEnd ∧
      ∀ allowance, 16 * (inner.length + 1) + 10 ≤ allowance →
        Takes settings .plain (inner ++ [closing, ending]) (Template.expression allowance) node
          .plain [closing', ending] := by
  have closed : Stops 0 [closing, ending] :=
    ⟨closing, [ending], rfl, by rw [inside.closes]; exact nofun, by rw [inside.closes]; exact nofun⟩
  have opens : expression.Opens settings := expression.opens
  have parses := opens.parses closed
  rw [List.append_cons] at parses
  obtain ⟨least, takes⟩ := parses
  have stands := Situation.stands_start .plain (tokensOf expression.lexemes ++ [closing] ++ [ending])
  have stands' := Situation.stands_start .plain (inner ++ [closing] ++ [ending])
  obtain ⟨stop, ran, stops⟩ := takes least (Nat.le_refl _) _ stands
  have runs : (elsewhere settings ending).Runs _ _ := inside.runs ending
  have alike := (similar (likeness_elsewhere settings ending) least).expression _ runs (Nat.le_refl _)
  obtain ⟨node, stop', left, left', ran', same, runs', -, here, there⟩ :=
    alike _ _ _ _ stands stands' ran
  obtain rfl : left = [closing] := List.append_cancel_right (here.ahead.symm.trans stops.ahead)
  obtain ⟨closing', rfl, closes⟩ : ∃ closing', left' = [closing'] ∧ closing'.kind = .tagEnd := by
    cases runs' with
    | closing same ends => exact ⟨_, rfl, (congrArg Prod.fst same).trans ends⟩
    | cons same inside runs => cases runs
  refine ⟨node, closing', same, closes, fun allowance enough => ?_⟩
  have again : (again settings .plain [ending] [ending]).Runs (inner ++ [closing]) _ :=
    runs.again_right
  have longer : 16 * (inner ++ [closing]).length + 10 ≤ allowance := by
    rwa [List.length_append, List.length_singleton]
  obtain ⟨left, there', -, -, takes⟩ :=
    ((similar likeness_again _).expression allowance again longer).takes stands' ran'
  obtain rfl : left = [closing'] := List.append_cancel_right (there'.ahead.symm.trans there.ahead)
  rwa [List.append_assoc] at takes

/-! ### The whole template -/

theorem assignment?_tagEnd {token : Token} (closes : token.kind = .tagEnd) :
    assignment? token.kind = none := by
  rw [closes]
  rfl

/-- A tag that begins with an operand holds an expression or an assignment. -/
theorem Takes.directive {situation after : Situation} {token : Token} {rest left : List Token}
    {directive : Directive} {allowance : Nat} (begins : Expression.beginsOperand token.kind = true)
    (takes : Takes settings situation (token :: rest) (do
      let value ← statement allowance
      Template.expectClosing
      match value with
      | .assign .. => return .node (.discard token.place value)
      | _ => return .node (.print token.place value)) directive after left) :
    Takes settings situation (token :: rest) (Template.directive (allowance + 1)) directive after
      left := by
  have sound : token.kind ≠ .error := fun faulty => by
    rw [faulty] at begins
    cases begins
  refine .nextToken_putBack sound ?_ takes
  split
  all_goals first
    | rfl
    | next found =>
        rw [found] at begins
        cases begins

mutual

/-- The trees of expressions have all places at the start. -/
theorem Expression.unplaced_node : (expression : Expression) →
    expression.node.unplaced = expression.node
  | .int _ | .uint _ _ | .string _ | .bool _ | .nil | .symbol _ => rfl
  | .field container _ => congrArg (Node.field .start · _) container.unplaced_node
  | .index container position =>
      congrArg₂ (Node.index .start) container.unplaced_node position.unplaced_node
  | .methodCall invocant _ arguments =>
      congrArg₂ (Node.methodCall .start · _ ·) invocant.unplaced_node (unplaced_nodes arguments)
  | .functionCall _ arguments => congrArg (Node.functionCall .start _) (unplaced_nodes arguments)
  | .filter operand _ => congrArg (Node.filter .start · _) operand.unplaced_node
  | .unary op operand => congrArg (Node.unary .start op) operand.unplaced_node
  | .binary op left right =>
      congrArg₂ (Node.binary .start op) left.unplaced_node right.unplaced_node
  | .list items => congrArg (Node.list .start) (unplaced_nodes items)
  | .range first last => congrArg₂ (Node.range .start) first.unplaced_node last.unplaced_node

theorem Expression.unplaced_nodes : (items : List Expression) →
    Node.unplacedAll (Expression.nodes items) = Expression.nodes items
  | [] => rfl
  | first :: rest => congrArg₂ List.cons first.unplaced_node (unplaced_nodes rest)

end

/-- A template that is one tag, with a blank behind each token. -/
def tagged (lexemes : List Lexeme) : String :=
  .ofList (Token.writtenTag Expression.space (lexemes.map (·, Expression.space)))

/-- The tokens of a template that is one tag. -/
structure Alone (lexemes : List Lexeme) (opening : Token) (inner : List Token)
    (closing ending : Token) : Prop where
  opens : opening.kind = .tagStart
  same : inner.map content = lexemes.map Lexeme.content
  closes : closing.kind = .tagEnd
  ends : ending.kind = .eof

theorem scan_tagged {lexemes : List Lexeme} (following : Following (some .tagStart) lexemes) :
    ∃ opening inner closing ending,
      Token.scan .standard (tagged lexemes) = opening :: (inner ++ [closing, ending]) ∧
        Alone lexemes opening inner closing ending := by
  have follows : Following (some .tagStart)
      ((lexemes.map (·, Expression.space)).map Prod.fst) := by
    rw [List.map_map]
    rwa [show (Prod.fst ∘ fun lexeme => (lexeme, Expression.space)) = id from rfl, List.map_id]
  have scanned := Token.scan_written Expression.space _ trivial follows
  obtain ⟨opening, behind, same, opens, others⟩ := List.map_eq_cons_iff.mp scanned
  obtain ⟨inner, final, rfl, inside, closes⟩ := List.map_eq_append_iff.mp others
  obtain ⟨closing, last, rfl, closing', ends⟩ := List.map_eq_cons_iff.mp closes
  obtain ⟨ending, none, rfl, ending', empty⟩ := List.map_eq_cons_iff.mp ends
  obtain rfl := List.map_eq_nil_iff.mp empty
  refine ⟨opening, inner, closing, ending, same, congrArg Prod.fst opens, ?_,
    congrArg Prod.fst closing', congrArg Prod.fst ending'⟩
  rw [inside, List.map_map]
  rfl

/-- A printed expression is scanned to a tag with its tokens. -/
theorem scan_printed (expression : Expression) :
    ∃ opening inner closing ending,
      Token.scan .standard expression.printed = opening :: (inner ++ [closing, ending]) ∧
        opening.kind = .tagStart ∧ Inside expression inner closing ∧ ending.kind = .eof := by
  have following : Following (some .tagStart) (expression.lexemes ++ []) :=
    expression.following ⟨nofun, rfl⟩ fun _ => trivial
  rw [List.append_nil] at following
  obtain ⟨opening, inner, closing, ending, scanned, alone⟩ := scan_tagged following
  exact ⟨opening, inner, closing, ending, scanned, alone.opens, ⟨alone.same, alone.closes⟩,
    alone.ends⟩

theorem Inside.begins {expression : Expression} {inner : List Token} {closing : Token}
    (inside : Inside expression inner closing) :
    ∃ first others, inner = first :: others ∧ Expression.beginsOperand first.kind = true := by
  obtain ⟨lexeme, lexemes, written, begins⟩ := expression.begins
  have same := inside.same
  rw [written] at same
  obtain ⟨first, others, rfl, here, -⟩ := List.map_eq_cons_iff.mp same
  exact ⟨first, others, rfl, (congrArg Expression.beginsOperand (congrArg Prod.fst here)).trans begins⟩

theorem not_assign_of_unplaced {node : Node} {expression : Expression}
    (same : node.unplaced = expression.node) (place : Place) (name : String) (slot : Nat)
    (value : Node) : node ≠ .assign place name slot value := by
  rintro rfl
  cases expression <;> cases same

/-- Parsing what was printed gives the tree of the expression, up to places. -/
theorem parse_printed (name : String) (expression : Expression) :
    ∃ place node, parse .standard name expression.printed = .ok ⟨name, [.print place node]⟩ ∧
      node.unplaced = expression.node := by
  obtain ⟨opening, inner, closing, ending, scanned, opens, inside, ends⟩ := scan_printed expression
  obtain ⟨first, others, rfl, begins⟩ := inside.begins
  let settings : Settings :=
    ⟨name, Token.Dialect.standard.closing, Token.Dialect.standard.maxIterations⟩
  obtain ⟨node, closing', same, closes, takes⟩ :
      ∃ node closing', node.unplaced = expression.node.unplaced ∧ closing'.kind = .tagEnd ∧
        ∀ allowance, 16 * ((first :: others).length + 1) + 10 ≤ allowance →
          Takes settings .plain (first :: others ++ [closing, ending])
            (Template.expression allowance) node .plain [closing', ending] := inside.takes ending
  rw [expression.unplaced_node] at same
  let tokens := opening :: (first :: others ++ [closing, ending])
  obtain ⟨allowance, whole, enough⟩ : ∃ allowance, allowanceFor tokens = allowance + 2 ∧
      16 * ((first :: others).length + 1) + 10 ≤ allowance :=
    ⟨16 * (tokens.length + 2) - 2, rfl, by simp [tokens]; omega⟩
  have statement : Takes settings .plain (first :: others ++ [closing, ending])
      (Template.statement allowance) node .plain [closing', ending] := by
    refine (takes allowance enough).bind ((Takes.peekKind (by rw [closes]; exact nofun)).bind ?_)
    rw [assignment?_tagEnd closes]
    exact .pure node
  have directive : Takes settings .plain (first :: others ++ [closing, ending])
      (Template.directive (allowance + 1)) (.node (.print first.place node)) .plain [ending] := by
    refine .directive begins (statement.bind ((Takes.expectClosing closes).bind ?_))
    split
    · exact absurd rfl (not_assign_of_unplaced same _ _ _ _)
    · exact .pure _
  have finished : Takes settings .plain [ending] (block (allowance + 1)) ([], .ofInput ending) .plain [] := by
    refine (Takes.nextToken (by rw [ends]; exact nofun)).bind ?_
    rw [ends]
    exact .pure _
  have nodes : Takes settings .plain tokens (block (allowance + 2))
      ([.print first.place node], .ofInput ending) .plain [] := by
    refine (Takes.nextToken (by rw [opens]; exact nofun)).bind ?_
    rw [opens]
    exact directive.bind (finished.bind (.pure _))
  have taken : Takes settings .plain tokens (template (allowance + 2))
      ⟨name, [.print first.place node]⟩ .plain [] :=
    nodes.bind (Takes.read.bind (.pure _))
  obtain ⟨stop, ran, -⟩ := taken _ (Situation.stands_start .plain tokens)
  refine ⟨first.place, node, ?_, same⟩
  rw [parse, scanned, ofTokens, whole]
  show ((template (allowance + 2) settings (Situation.plain.start tokens)) >>= fun result => _) = _
  rw [ran]
  rfl

end Stencil.Template

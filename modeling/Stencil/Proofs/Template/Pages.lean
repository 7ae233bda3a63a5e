import Stencil.Proofs.Template.RoundTrip
import Stencil.Proofs.Template.Structure

/-!
# Templates of one tag

A template that is one tag is parsed if the expression in the tag is, and refused if that is. A
number is read as the literal that it denotes, or refused for what is wrong with it.
-/

namespace Stencil.Template

open Token (Kind Lexeme Numeral content)

/-- The settings under which a template is parsed in the standard dialect. -/
def standardSettings (name : String) : Settings :=
  ⟨name, Token.Dialect.standard.closing, Token.Dialect.standard.maxIterations⟩

/-- An allowance for the expression between two marks. -/
def enoughFor (inner : List Token) : Nat :=
  16 * (inner.length + 1) + 10

variable {settings : Settings} {situation : Situation} {name source : String}
  {lexemes : List Lexeme} {opening closing closing' ending token : Token} {inner rest : List Token}
  {node : Node} {allowance : Nat}

/-- An expression that is parsed with some allowance is parsed with one that is enough. -/
theorem Parses.takes_expression
    (parses : Parses settings (inner ++ [closing, ending]) expression node [closing, ending])
    (inside : ∀ token ∈ inner, token.kind ≠ .tagEnd) (closes : closing.kind = .tagEnd)
    (enough : enoughFor inner ≤ allowance) :
    Takes settings .plain (inner ++ [closing, ending]) (expression allowance) node .plain
      [closing, ending] := by
  obtain ⟨least, takes⟩ := parses
  have runs : (again settings .plain [ending] [ending]).Runs (inner ++ [closing])
      (inner ++ [closing]) :=
    .of_forall₂ (List.forall₂_same.mpr fun _ _ => rfl) inside rfl closes
  have longer : 16 * (inner ++ [closing]).length + 10 ≤ allowance := by
    rwa [List.length_append, List.length_singleton]
  rw [List.append_cons] at takes ⊢
  have stands := Situation.stands_start .plain (inner ++ [closing] ++ [ending])
  obtain ⟨stop, ran, stops⟩ := takes least (Nat.le_refl _) _ stands
  obtain ⟨left, there, -, -, taken⟩ :=
    ((similar likeness_again _).expression allowance runs longer).takes stands ran
  obtain rfl : left = [closing] := List.append_cancel_right (there.ahead.symm.trans stops.ahead)
  exact taken

/-! ## Tags -/

theorem Refuses.nextToken_putBack {β : Type} {further : Parse β} {next : Token → Parse β}
    (sound : token.kind ≠ .error) (same : next token = (putBack token >>= fun _ => further))
    (refused : Refuses settings situation (token :: rest) further) :
    Refuses settings situation (token :: rest) (nextToken >>= next) := by
  intro start stands
  obtain ⟨start', stands', ran⟩ := Template.nextToken_putBack sound same stands
  rw [ran]
  exact refused start' stands'

theorem Refuses.operand
    (refused : Refuses settings situation (token :: rest) (expression allowance)) :
    Refuses settings situation (token :: rest) (do
      let value ← statement allowance
      Template.expectClosing
      match value with
      | .assign .. => return Directive.node (.discard token.place value)
      | _ => return .node (.print token.place value)) :=
  Refuses.bind (Refuses.bind refused)

/-- A tag that begins with an operand is refused if its expression is. -/
theorem Refuses.directive (begins : Expression.beginsOperand token.kind = true)
    (refused : Refuses settings situation (token :: rest) (expression allowance)) :
    Refuses settings situation (token :: rest) (directive (allowance + 1)) := by
  have sound : token.kind ≠ .error := fun faulty => by
    rw [faulty] at begins
    cases begins
  refine .nextToken_putBack sound ?_ refused.operand
  split
  all_goals first
    | rfl
    | next found =>
        rw [found] at begins
        cases begins

namespace Alone

variable (alone : Alone lexemes opening inner closing ending) (begins : Expression.Begins lexemes)
  (scanned : Token.scan .standard source = opening :: (inner ++ [closing, ending]))

include alone begins

theorem exists_first : ∃ first others, inner = first :: others ∧
    Expression.beginsOperand first.kind = true := by
  obtain ⟨lexeme, others, rfl, begins⟩ := begins
  obtain ⟨first, others, rfl, here, -⟩ := List.map_eq_cons_iff.mp alone.same
  exact ⟨first, others, rfl,
    (congrArg Expression.beginsOperand (congrArg Prod.fst here)).trans begins⟩

include scanned

/-- The expression in a tag is what the template prints. -/
theorem parse_eq (closes : closing'.kind = .tagEnd)
    (takes : ∀ allowance, enoughFor inner ≤ allowance →
      Takes (standardSettings name) .plain (inner ++ [closing, ending]) (expression allowance) node
        .plain [closing', ending])
    (value : ∀ place name slot operand, node ≠ .assign place name slot operand) :
    ∃ place, parse .standard name source = .ok ⟨name, [.print place node]⟩ := by
  obtain ⟨first, others, rfl, operand⟩ := alone.exists_first begins
  let tokens := opening :: (first :: others ++ [closing, ending])
  obtain ⟨allowance, whole, enough⟩ : ∃ allowance, allowanceFor tokens = allowance + 2 ∧
      enoughFor (first :: others) ≤ allowance :=
    ⟨16 * (tokens.length + 2) - 2, rfl, by simp [tokens, enoughFor]; omega⟩
  have assigned : Takes (standardSettings name) .plain (first :: others ++ [closing, ending])
      (statement allowance) node .plain [closing', ending] := by
    refine (takes allowance enough).bind ((Takes.peekKind (by rw [closes]; exact nofun)).bind ?_)
    rw [assignment?_tagEnd closes]
    exact .pure node
  have printed : Takes (standardSettings name) .plain (first :: others ++ [closing, ending])
      (directive (allowance + 1)) (.node (.print first.place node)) .plain [ending] := by
    refine .directive operand (assigned.bind ((Takes.expectClosing closes).bind ?_))
    split
    · exact absurd rfl (value _ _ _ _)
    · exact .pure _
  have finished : Takes (standardSettings name) .plain [ending] (block (allowance + 1))
      ([], .ofInput ending) .plain [] := by
    refine (Takes.nextToken (by rw [alone.ends]; exact nofun)).bind ?_
    rw [alone.ends]
    exact .pure _
  have nodes : Takes (standardSettings name) .plain tokens (block (allowance + 2))
      ([.print first.place node], .ofInput ending) .plain [] := by
    refine (Takes.nextToken (by rw [alone.opens]; exact nofun)).bind ?_
    rw [alone.opens]
    exact printed.bind (finished.bind (.pure _))
  have taken : Takes (standardSettings name) .plain tokens (template (allowanceFor tokens))
      ⟨name, [.print first.place node]⟩ .plain [] := by
    rw [whole]
    exact nodes.bind (Takes.read.bind (.pure _))
  refine ⟨first.place, ?_⟩
  rw [parse, scanned]
  exact ofTokens_of_takes taken

/-- A template is refused if the expression in its tag is. -/
theorem faults_parse
    (refused : ∀ allowance, enoughFor inner ≤ allowance →
      Refuses (standardSettings name) .plain (inner ++ [closing, ending]) (expression allowance)) :
    Faults (parse .standard name source) := by
  obtain ⟨first, others, rfl, operand⟩ := alone.exists_first begins
  let tokens := opening :: (first :: others ++ [closing, ending])
  obtain ⟨allowance, whole, enough⟩ : ∃ allowance, allowanceFor tokens = allowance + 2 ∧
      enoughFor (first :: others) ≤ allowance :=
    ⟨16 * (tokens.length + 2) - 2, rfl, by simp [tokens, enoughFor]; omega⟩
  have directive : Refuses (standardSettings name) .plain (first :: others ++ [closing, ending])
      (directive (allowance + 1)) :=
    .directive operand (refused allowance enough)
  have nodes : Refuses (standardSettings name) .plain tokens (block (allowance + 2)) := by
    refine (Takes.nextToken (by rw [alone.opens]; exact nofun)).refuses ?_
    rw [alone.opens]
    exact directive.bind
  have whole' : Refuses (standardSettings name) .plain tokens (template (allowanceFor tokens)) := by
    rw [whole]
    exact nodes.bind
  rw [parse, scanned]
  exact faults_of_refuses whole'

end Alone

/-! ## Numbers -/

/-- A number that denotes a literal is read as that. -/
theorem takes_number (number : token.kind = .number) (closes : closing.kind = .tagEnd)
    (denoted : literal token.place token.value = .ok node)
    (enough : enoughFor [token] ≤ allowance) :
    Takes settings .plain [token, closing, ending] (expression allowance) node .plain
      [closing, ending] := by
  have begins : IsFirst token.kind := by
    rw [number]
    decide
  have opens : Opens settings 8 [token] node := by
    refine opens_primary begins fun more _ => .succ (.andThen (.nextToken begins.1) ?_)
    rw [number]
    show Parses settings more (fun _ => numeral token) node more
    rw [numeral, denoted]
    exact .pure node
  have stops : Stops 0 [closing, ending] :=
    ⟨closing, [ending], rfl, by rw [closes]; decide, by rw [closes]; decide⟩
  have parses := (opens.descend (Nat.le_refl 8) (Nat.zero_le 8)).parses stops (Nat.zero_le 8)
  refine parses.takes_expression ?_ closes enough
  simp [number]

theorem refuses_binary (refused : Refuses settings situation (token :: rest) (unary allowance))
    (tighter level : Nat) (within : level + tighter = levels) :
    Refuses settings situation (token :: rest) (binary (allowance + tighter + 1) level) := by
  induction tighter generalizing level with
  | zero =>
      obtain rfl : level = levels := within
      rw [Nat.add_zero, binary_of_le (Nat.le_refl _)]
      exact refused
  | succ tighter ih =>
      rw [← Nat.add_assoc, binary_of_lt (by omega)]
      exact (ih (level + 1) (by omega)).bind

/-- A number that denotes no literal is refused. -/
theorem refuses_number {problem : GrammarFault} (number : token.kind = .number)
    (wrong : literal token.place token.value = .error problem) (real : problem ≠ .tooDeep)
    (allowance : Nat) :
    Refuses settings situation (token :: rest) (expression (allowance + 10)) := by
  have sound : token.kind ≠ .error := by
    rw [number]
    decide
  have primary : Refuses settings situation (token :: rest) (primary (allowance + 1)) := by
    refine (Takes.nextToken sound).refuses ?_
    rw [number]
    show Refuses settings situation rest (numeral token)
    rw [numeral, wrong]
    exact .fault real
  have unary : Refuses settings situation (token :: rest) (unary (allowance + 1 + 1)) := by
    refine (Takes.peekKind sound).refuses ?_
    rw [number]
    exact primary.bind
  exact (refuses_binary unary levels 0 (Nat.zero_add _)).bind

end Stencil.Template

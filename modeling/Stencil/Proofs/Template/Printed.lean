import Stencil.Proofs.Template.Ahead
import Stencil.Proofs.Template.Literals

/-!
# Parsing printed expressions

The tokens of a printed expression are parsed as its tree. Each level of the descent finds the
operand that was printed for it, and goes on with the tokens behind.
-/

namespace Stencil.Template

open Node (UnaryOp BinaryOp)
open Token (Kind Lexeme Name)

variable {α β : Type}

/-- With every allowance that is large enough, a parse takes some tokens and yields a value. -/
def Parses (settings : Settings) (tokens : List Token) (parse : Nat → Parse α) (value : α)
    (rest : List Token) : Prop :=
  ∃ least, ∀ allowance ≥ least, Takes settings .plain tokens (parse allowance) value .plain rest

namespace Parses

variable {settings : Settings} {tokens middle rest : List Token} {parse : Nat → Parse α}
  {next : Nat → α → Parse β} {value : α} {result : β} {token : Token}

theorem const {parse : Parse α} (takes : Takes settings .plain tokens parse value .plain rest) :
    Parses settings tokens (fun _ => parse) value rest :=
  ⟨0, fun _ _ => takes⟩

theorem pure (value : α) : Parses settings tokens (fun _ => Pure.pure value) value tokens :=
  const (.pure value)

theorem bind (begun : Parses settings tokens parse value middle)
    (continued : Parses settings middle (fun allowance => next allowance value) result rest) :
    Parses settings tokens (fun allowance => parse allowance >>= next allowance) result rest := by
  obtain ⟨least, begun⟩ := begun
  obtain ⟨least', continued⟩ := continued
  refine ⟨max least least', fun allowance enough => ?_⟩
  exact (begun allowance (Nat.le_trans (Nat.le_max_left _ _) enough)).bind
    (continued allowance (Nat.le_trans (Nat.le_max_right _ _) enough))

/-- What comes first needs no allowance. -/
theorem andThen {first : Parse α} (begun : Takes settings .plain tokens first value .plain middle)
    (continued : Parses settings middle (fun allowance => next allowance value) result rest) :
    Parses settings tokens (fun allowance => first >>= next allowance) result rest :=
  (const begun).bind continued

/-- The function of the descent uses up some of the allowance. -/
theorem succ (parses : Parses settings tokens (fun allowance => parse (allowance + 1)) value rest) :
    Parses settings tokens parse value rest := by
  obtain ⟨least, parses⟩ := parses
  refine ⟨least + 1, fun allowance enough => ?_⟩
  obtain ⟨fewer, rfl⟩ := Nat.exists_eq_add_of_le' (Nat.le_trans (Nat.le_add_left 1 _) enough)
  exact parses fewer (Nat.le_of_succ_le_succ enough)

end Parses

/-! ## Levels of the descent -/

/-- The level at which a token goes on behind an operand. A parenthesis makes a name a call. -/
def continuation? : Kind → Option Nat
  | .pipe => some 0
  | .or => some 1
  | .and => some 2
  | .eq | .notEq => some 3
  | .lt | .gt | .ltEq | .gtEq => some 4
  | .plus | .minus | .tilde => some 5
  | .star | .slash | .percent => some 6
  | .dot | .leftBracket => some 8
  | .leftParen => some 9
  | _ => none

/-- The next token does not go on at a level or at tighter ones. -/
def Stops (level : Nat) (tokens : List Token) : Prop :=
  ∃ token rest, tokens = token :: rest ∧ token.kind ≠ .error ∧
    ∀ tightness ∈ continuation? token.kind, tightness < level

theorem Stops.mono {level tighter : Nat} {tokens : List Token} (stops : Stops level tokens)
    (above : level ≤ tighter) : Stops tighter tokens := by
  obtain ⟨token, rest, same, sound, looser⟩ := stops
  exact ⟨token, rest, same, sound, fun tightness goes => Nat.lt_of_lt_of_le (looser tightness goes) above⟩

/-- The function of the descent for the operands of a level. -/
def operandAt : Nat → Nat → Parse Node
  | 0, allowance => expression allowance
  | level + 1, allowance =>
      if level < levels then binary allowance level else unary allowance

/-- The function of the descent behind an operand of a level. -/
def behindAt : Nat → Nat → Node → Parse Node
  | 0, allowance, operand => filters allowance operand
  | level + 1, allowance, operand =>
      if level < levels then operators allowance level operand
      else if level = levels then pure operand
      else suffixes allowance operand

section

variable {level : Nat}

theorem operandAt_of_lt (below : level < levels) :
    operandAt (level + 1) = fun allowance => binary allowance level :=
  funext fun _ => if_pos below

theorem operandAt_of_le (above : levels ≤ level) : operandAt (level + 1) = unary :=
  funext fun _ => if_neg (Nat.not_lt.mpr above)

theorem behindAt_of_lt (below : level < levels) :
    behindAt (level + 1) = fun allowance => operators allowance level :=
  funext fun _ => funext fun _ => if_pos below

theorem binary_of_lt (below : level < levels) (allowance : Nat) :
    binary (allowance + 1) level = binary allowance (level + 1) >>= operators allowance level := by
  rw [Template.binary, if_pos below]

theorem binary_of_le (above : levels ≤ level) (allowance : Nat) :
    binary (allowance + 1) level = unary allowance := by
  rw [Template.binary, if_neg (Nat.not_lt.mpr above)]

end

/-- The tokens are read as an operand of a level, whatever comes behind. -/
def Opens (settings : Settings) (level : Nat) (tokens : List Token) (node : Node) : Prop :=
  ∀ more value rest, Stops (level + 1) more →
    Parses settings more (fun allowance => behindAt level allowance node) value rest →
      Parses settings (tokens ++ more) (operandAt level) value rest

variable {settings : Settings} {tokens more rest : List Token} {node value : Node}

theorem operatorAt?_eq_none {level : Nat} {kind : Kind}
    (looser : ∀ tightness ∈ continuation? kind, tightness < level + 1) :
    operatorAt? level kind = none := by
  unfold operatorAt?
  split
  all_goals first | rfl | exact absurd (looser _ rfl) (Nat.lt_irrefl _)

/-- Behind an operand nothing is taken where its level stops. -/
theorem parses_behindAt {level : Nat} (stops : Stops level more) (within : level ≤ 8) :
    Parses settings more (fun allowance => behindAt level allowance node) node more := by
  obtain ⟨token, rest, rfl, sound, looser⟩ := stops
  cases level with
  | zero =>
      have other : token.kind ≠ .pipe := by
        intro same
        rw [same] at looser
        exact Nat.not_lt_zero _ (looser 0 rfl)
      refine .succ (.andThen (.peekKind sound) ?_)
      simp only [if_neg other]
      exact .pure node
  | succ level =>
      simp only [behindAt]
      split
      · refine .succ (.andThen (.peekKind sound) ?_)
        simp only [operatorAt?_eq_none looser]
        exact .pure node
      · split
        · exact .pure node
        · refine .succ (.andThen (.peekKind sound) ?_)
          split
          · next same =>
              rw [same] at looser
              exact absurd (looser 8 rfl) (by omega)
          · next same =>
              rw [same] at looser
              exact absurd (looser 8 rfl) (by omega)
          · exact .pure node

/-- An operand alone, where its level stops. -/
theorem Opens.parses {level : Nat} (opens : Opens settings level tokens node)
    (stops : Stops level more) (within : level ≤ 8) :
    Parses settings (tokens ++ more) (operandAt level) node more :=
  opens more node more (stops.mono (Nat.le_succ _)) (parses_behindAt stops within)

/-- An operand of a level, as the function of the next looser one asks for it. -/
theorem parses_binary {level : Nat} (within : level ≤ levels)
    (operand : Parses settings tokens (operandAt (level + 1)) node rest) :
    Parses settings tokens (fun allowance => binary allowance level) node rest := by
  obtain below | same := Nat.lt_or_eq_of_le within
  · rwa [operandAt_of_lt below] at operand
  · rw [operandAt_of_le (Nat.le_of_eq same.symm)] at operand
    refine .succ ?_
    simp only [binary_of_le (Nat.le_of_eq same.symm)]
    exact operand

/-- An operand of a tighter level is one of a looser level. -/
theorem Opens.down {level : Nat} (opens : Opens settings (level + 1) tokens node)
    (within : level < 8) : Opens settings level tokens node := by
  intro more value rest stops behind
  have operand := opens.parses stops within
  cases level with
  | zero => exact .succ ((parses_binary (Nat.zero_le _) operand).bind behind)
  | succ level =>
      by_cases below : level < levels
      · rw [behindAt_of_lt below] at behind
        rw [operandAt_of_lt below]
        refine .succ ?_
        simp only [binary_of_lt below]
        exact (parses_binary below operand).bind behind
      · obtain rfl : level = levels := by
          simp only [levels] at below ⊢
          omega
        have whole : Parses settings (tokens ++ more)
            (fun allowance => unary allowance >>= Pure.pure) value rest := operand.bind behind
        simp only [bind_pure] at whole
        exact whole

theorem Opens.descend {level looser : Nat} (opens : Opens settings level tokens node)
    (within : level ≤ 8) (below : looser ≤ level) : Opens settings looser tokens node := by
  induction level with
  | zero => 
      obtain rfl := Nat.le_zero.mp below
      exact opens
  | succ level ih =>
      obtain above | rfl := Nat.lt_or_eq_of_le below
      · exact ih (opens.down within) (Nat.le_of_succ_le within) (Nat.le_of_lt_succ above)
      · exact opens

/-! ## Tokens -/

/-- The token of a lexeme, at the start of a template. -/
def token (lexeme : Lexeme) : Token :=
  ⟨lexeme.kind, .start, .ofList lexeme.value⟩

def tokensOf (lexemes : List Lexeme) : List Token :=
  lexemes.map token

@[simp]
theorem tokensOf_nil : tokensOf [] = [] :=
  rfl

@[simp]
theorem tokensOf_cons (first : Lexeme) (rest : List Lexeme) :
    tokensOf (first :: rest) = token first :: tokensOf rest :=
  rfl

@[simp]
theorem tokensOf_append (first rest : List Lexeme) :
    tokensOf (first ++ rest) = tokensOf first ++ tokensOf rest :=
  List.map_append

theorem sound_mark (mark : Mark) : (token mark.lexeme).kind ≠ .error := by
  cases mark with
  | binary op => cases op <;> decide
  | unary op => cases op <;> decide
  | bool b => cases b <;> decide
  | _ => decide

/-- In front of a looser operator a level stops. -/
theorem stops_mark {level tightness : Nat} {mark : Mark}
    (goes : continuation? mark.kind = some tightness) (looser : tightness < level)
    (rest : List Token) : Stops level (token mark.lexeme :: rest) := by
  refine ⟨_, rest, rfl, sound_mark mark, fun other same => ?_⟩
  obtain rfl : tightness = other := Option.some.inj (goes.symm.trans same)
  exact looser

/-- In front of a closing mark every level stops. -/
theorem stops_closing {mark : Mark} (closes : continuation? mark.kind = none) (rest : List Token) :
    Stops 0 (token mark.lexeme :: rest) :=
  ⟨_, rest, rfl, sound_mark mark, fun _ same => nomatch closes.symm.trans same⟩

/-! ## Operands of the tightest level -/

/-- The kinds of tokens that begin an operand, and are no operator before one. -/
def IsFirst (kind : Kind) : Prop :=
  kind ≠ .error ∧ kind ≠ .not ∧ kind ≠ .minus ∧ kind ≠ .plus

instance (kind : Kind) : Decidable (IsFirst kind) :=
  inferInstanceAs (Decidable (_ ∧ _))

/-- What is read without its suffixes. -/
theorem opens_primary {first : Token} (begins : IsFirst first.kind)
    (primary : ∀ more, Stops 9 more →
      Parses settings (first :: (tokens ++ more)) primary node more) :
    Opens settings 8 (first :: tokens) node := by
  intro more value rest stops behind
  obtain ⟨sound, unnegated, unminus, unplus⟩ := begins
  have within : levels ≤ 7 := by decide
  rw [operandAt_of_le within]
  refine .succ (.andThen (.peekKind sound) ?_)
  split
  · contradiction
  · contradiction
  · contradiction
  · exact (primary more stops).bind behind

theorem opens_enclosed {lexemes : List Lexeme} {level asked : Nat} {loose : Bool}
    (opens : Opens settings level (tokensOf lexemes) node) (within : level ≤ 8) (below : asked ≤ 8)
    (when : loose = true ↔ level < asked) :
    Opens settings asked (tokensOf (Expression.enclosed loose lexemes)) node := by
  cases loose with
  | false =>
      have tighter : asked ≤ level := Nat.not_lt.mp (mt when.mpr nofun)
      exact opens.descend within tighter
  | true =>
      have whole : Opens settings 0 (tokensOf lexemes) node := opens.descend within (Nat.zero_le _)
      have tightest : Opens settings 8 (token Mark.leftParen.lexeme ::
          tokensOf (lexemes ++ [Mark.rightParen.lexeme])) node := by
        refine opens_primary (by decide) fun more _ => .succ (.andThen (.nextToken (by decide)) ?_)
        have closes : Stops 0 (token Mark.rightParen.lexeme :: more) := stops_closing rfl more
        have inner := whole.parses closes (Nat.zero_le _)
        rw [tokensOf_append, List.append_assoc]
        show Parses settings _ (fun allowance => do
          let inner ← expression allowance
          let _ ← expect .rightParen "')'"
          return inner) node more
        exact inner.bind (.andThen (.expect (by decide) rfl) (.pure node))
      exact tightest.descend (Nat.le_refl 8) below

/-! ## Expressions -/

namespace Expression

theorem operatorLevel_le (op : BinaryOp) : operatorLevel op ≤ 6 := by
  cases op <;> decide

theorem level_le (expression : Expression) : expression.level ≤ 8 := by
  cases expression with
  | binary op left right => exact Nat.le_trans (operatorLevel_le op) (by decide)
  | _ => simp [level]

/-- The tokens of an expression are read as its tree. -/
def Opens (settings : Settings) (expression : Expression) : Prop :=
  Template.Opens settings expression.level (tokensOf expression.lexemes) expression.node

variable {expression operand left right : Expression} {items : List Expression}

/-- As an operand of a level, in parentheses where it must be. -/
theorem Opens.enclosed (opens : Opens settings expression) {asked : Nat} (below : asked ≤ 8) :
    Template.Opens settings asked
      (tokensOf (Expression.enclosed (expression.level < asked) expression.lexemes))
      expression.node :=
  opens_enclosed opens expression.level_le below decide_eq_true_iff

/-- As a whole expression. -/
theorem Opens.parses (opens : Opens settings expression) (stops : Stops 0 more) :
    Parses settings (tokensOf expression.lexemes ++ more) Template.expression expression.node more :=
  Template.Opens.parses (opens.descend expression.level_le (Nat.zero_le _)) stops (Nat.zero_le _)

/-! ### Leaves -/

theorem token_number (negative : Bool) (n : Nat) :
    token (number negative n) =
      ⟨.number, .start, .ofList (Token.dash negative ++ Decimal.digitsOf n)⟩ := by
  have written : (Token.Numeral.decimal (digits n) none none).written = Decimal.digitsOf n :=
    List.append_nil _
  rw [number, token, Lexeme.value, written]
  rfl

/-- A number whose digits denote a node. -/
theorem opens_number {negative : Bool} {n : Nat}
    (denoted : literal .start (.ofList (Token.dash negative ++ Decimal.digitsOf n)) = .ok node) :
    Template.Opens settings 8 (tokensOf [number negative n]) node := by
  rw [tokensOf_cons, token_number]
  have begins : IsFirst .number := by decide
  refine opens_primary begins fun more _ => .succ (.andThen (.nextToken begins.1) ?_)
  show Parses settings more (fun _ => numeral ⟨.number, .start, _⟩) node more
  rw [numeral, denoted]
  exact .pure node

theorem opens_int (n : Int64) : Opens settings (.int n) :=
  opens_number (literal_int .start n)

theorem opens_uint (n : UInt64) (large : 0x8000000000000000 ≤ n) : Opens settings (.uint n large) :=
  opens_number (literal_uint .start n large)

theorem opens_string (content : String) : Opens settings (.string content) := by
  have begins : IsFirst (Lexeme.string '"' (.inl rfl) content.toList).kind :=
    show IsFirst .string by decide
  refine opens_primary begins fun more _ => .succ (.andThen (.nextToken begins.1) ?_)
  show Parses settings more (fun _ => Pure.pure (Node.string .start (.ofList content.toList))) _ more
  rw [String.ofList_toList]
  exact .pure _

theorem opens_bool (b : Bool) : Opens settings (.bool b) := by
  cases b with
  | true =>
      exact opens_primary (by decide) fun _ _ => .succ (.andThen (.nextToken (by decide)) (.pure _))
  | false =>
      exact opens_primary (by decide) fun _ _ => .succ (.andThen (.nextToken (by decide)) (.pure _))

theorem opens_nil : Opens settings .nil :=
  opens_primary (by decide) fun _ _ => .succ (.andThen (.nextToken (by decide)) (.pure _))

/-- A name is no call where the tightest level stops. -/
theorem not_called {more : List Token} (stops : Stops 9 more) :
    ∃ token rest, more = token :: rest ∧ token.kind ≠ .error ∧ token.kind ≠ .leftParen := by
  obtain ⟨token, rest, same, sound, looser⟩ := stops
  refine ⟨token, rest, same, sound, fun called => ?_⟩
  rw [called] at looser
  exact Nat.lt_irrefl _ (looser 9 rfl)

theorem opens_symbol (name : Name) : Opens settings (.symbol name) := by
  have begins : IsFirst (Lexeme.name name).kind := show IsFirst .ident by decide
  refine opens_primary begins fun more stops => .succ (.andThen (.nextToken begins.1) ?_)
  obtain ⟨behind, rest, rfl, sound, uncalled⟩ := not_called stops
  refine .andThen (.decline sound uncalled) (.const (.get fun state stands => ?_))
  have resolved : state.frame.resolve .start (text name) = .symbol .start (text name) := by
    rw [stands.frame, resolve_plain]
  show Takes settings .plain _ (Pure.pure (state.frame.resolve .start (text name))) _ .plain _
  rw [resolved]
  exact .pure _

/-! ### Suffixes -/

theorem opens_field {container : Expression} (opens : Opens settings container) (name : Name) :
    Opens settings (.field container name) := by
  intro more value rest stops behind
  obtain ⟨next, left, rfl, sound, uncalled⟩ := not_called stops
  have operand := opens.enclosed (Nat.le_refl 8) (token Mark.dot.lexeme :: token (.name name) ::
    next :: left) value rest (stops_mark rfl (by decide) _)
  rw [lexemes, tokensOf_append, List.append_assoc]
  refine operand (.succ (.andThen (.peekKind (by decide)) ?_))
  refine .andThen (.nextToken (by decide)) (.andThen (.peekKind (show Kind.ident ≠ .error by decide)) ?_)
  refine .andThen (.expectName rfl) (.andThen (.decline sound uncalled) ?_)
  exact behind

theorem opens_index {container position : Expression} (opens : Opens settings container)
    (opens' : Opens settings position) : Opens settings (.index container position) := by
  intro more value rest stops behind
  have operand := opens.enclosed (Nat.le_refl 8) (token Mark.leftBracket.lexeme ::
    (tokensOf position.lexemes ++ token Mark.rightBracket.lexeme :: more)) value rest
      (stops_mark rfl (by decide) _)
  have closes : Stops 0 (token Mark.rightBracket.lexeme :: more) := stops_closing rfl more
  rw [lexemes]
  simp only [tokensOf_append, tokensOf_cons, tokensOf_nil, List.append_assoc, List.cons_append,
    List.nil_append]
  refine operand (.succ (.andThen (.peekKind (by decide)) (.andThen (.nextToken (by decide)) ?_)))
  refine (opens'.parses closes).bind (.andThen (.expect (by decide) rfl) ?_)
  exact behind

/-! ### Lists of operands -/

/-- The kinds of the tokens that begin an expression. -/
def beginsOperand : Kind → Bool
  | .number | .string | .true | .false | .nil | .ident | .leftParen | .leftBracket | .not | .minus =>
      true
  | _ => false

def Begins (lexemes : List Lexeme) : Prop :=
  ∃ first rest, lexemes = first :: rest ∧ beginsOperand first.kind = true

theorem Begins.append {first : List Lexeme} (begins : Begins first) (rest : List Lexeme) :
    Begins (first ++ rest) := by
  obtain ⟨head, tail, rfl, operand⟩ := begins
  exact ⟨head, tail ++ rest, rfl, operand⟩

theorem Begins.enclosed {lexemes : List Lexeme} (begins : Begins lexemes) (loose : Bool) :
    Begins (Expression.enclosed loose lexemes) := by
  cases loose with
  | true => exact ⟨_, _, rfl, rfl⟩
  | false => exact begins

theorem begins : (expression : Expression) → Begins expression.lexemes
  | int _ | uint _ _ | string _ | bool true | bool false | nil | symbol _ | functionCall _ _
  | unary .not _ | unary .neg _ | list _ | range _ _ => ⟨_, _, rfl, rfl⟩
  | field container _ => ((begins container).enclosed _).append _
  | index container _ => ((begins container).enclosed _).append _
  | methodCall invocant _ _ => ((begins invocant).enclosed _).append _
  | filter operand _ => (begins operand).append _
  | binary _ left _ => ((begins left).enclosed _).append _

/-- Other marks are declined in front of an expression. -/
theorem declines (expression : Expression) {kind : Kind} (other : beginsOperand kind = false)
    (more : List Token) :
    Takes settings .plain (tokensOf expression.lexemes ++ more) (accept kind) false .plain
      (tokensOf expression.lexemes ++ more) := by
  obtain ⟨first, rest, same, operand⟩ := begins expression
  rw [same]
  refine .decline (fun faulty => ?_) (fun same => ?_)
  · rw [show first.kind = .error from faulty] at operand
    cases operand
  · rw [show first.kind = kind from same] at operand
    exact Bool.eq_false_iff.mp other operand

theorem parses_moreArguments {first : Expression} (opens : Opens settings first)
    (others : ∀ item ∈ items, Opens settings item) (more : List Token) :
    Parses settings (tokensOf first.lexemes ++
      (tokensOf (moreLexemes items) ++ token Mark.rightParen.lexeme :: more)) moreArguments
        (first.node :: nodes items) more := by
  induction items generalizing first with
  | nil =>
      refine .succ ((opens.parses (stops_closing rfl more)).bind ?_)
      exact .andThen (.nextToken (by decide)) (.pure _)
  | cons next items ih =>
      obtain ⟨opens', others⟩ := List.forall_mem_cons.mp others
      have rest := ih opens' others
      rw [moreLexemes]
      simp only [tokensOf_append, tokensOf_cons, List.append_assoc, List.cons_append]
      refine .succ ((opens.parses (stops_closing rfl _)).bind ?_)
      exact .andThen (.nextToken (by decide)) (rest.bind (.pure _))

theorem parses_arguments (each : ∀ item ∈ items, Opens settings item) (more : List Token) :
    Parses settings (tokensOf (itemsLexemes items) ++ token Mark.rightParen.lexeme :: more)
      arguments (nodes items) more := by
  cases items with
  | nil => exact .succ (.andThen (.accept (by decide) rfl) (.pure _))
  | cons first items =>
      obtain ⟨opens, others⟩ := List.forall_mem_cons.mp each
      rw [itemsLexemes, tokensOf_append, List.append_assoc]
      refine .succ (.andThen (declines first rfl _) ?_)
      exact parses_moreArguments opens others more

/-- Behind an item stands a comma or the closing mark. -/
theorem behind_item (items : List Expression) (closing : Mark) (more : List Token) :
    ∃ separator left, tokensOf (moreLexemes items) ++ token closing.lexeme :: more =
      token separator.lexeme :: left ∧ (separator = .comma ∨ separator = closing) := by
  cases items with
  | nil => exact ⟨closing, more, rfl, .inr rfl⟩
  | cons next items => exact ⟨.comma, _, rfl, .inl rfl⟩

theorem stops_behind_item {separator : Mark}
    (either : separator = .comma ∨ separator = .rightBracket) (left : List Token) :
    Stops 0 (token separator.lexeme :: left) := by
  rcases either with rfl | rfl <;> exact stops_closing rfl left

theorem parses_moreItems (each : ∀ item ∈ items, Opens settings item) (more : List Token) :
    Parses settings (tokensOf (moreLexemes items) ++ token Mark.rightBracket.lexeme :: more)
      moreItems (nodes items) more := by
  induction items with
  | nil => exact .succ (.andThen (.nextToken (by decide)) (.pure _))
  | cons next items ih =>
      obtain ⟨opens, others⟩ := List.forall_mem_cons.mp each
      have rest := ih others
      obtain ⟨separator, left, same, either⟩ := behind_item items .rightBracket more
      rw [same] at rest
      rw [moreLexemes]
      simp only [tokensOf_append, tokensOf_cons, List.append_assoc, List.cons_append, same]
      refine .succ (.andThen (.nextToken (by decide)) (.andThen (declines next rfl _) ?_))
      exact (opens.parses (stops_behind_item either left)).bind (rest.bind (.pure _))

theorem opens_methodCall {invocant : Expression} (opens : Opens settings invocant) (name : Name)
    (each : ∀ item ∈ items, Opens settings item) :
    Opens settings (.methodCall invocant name items) := by
  intro more value rest stops behind
  have operand := opens.enclosed (Nat.le_refl 8) (token Mark.dot.lexeme :: token (.name name) ::
    token Mark.leftParen.lexeme ::
      (tokensOf (itemsLexemes items) ++ token Mark.rightParen.lexeme :: more)) value rest
        (stops_mark rfl (by decide) _)
  rw [lexemes]
  simp only [tokensOf_append, tokensOf_cons, tokensOf_nil, List.append_assoc, List.cons_append,
    List.nil_append]
  refine operand (.succ (.andThen (.peekKind (by decide)) (.andThen (.nextToken (by decide)) ?_)))
  refine .andThen (.peekKind (show Kind.ident ≠ .error by decide)) (.andThen (.expectName rfl) ?_)
  refine .andThen (.accept (by decide) rfl) ((parses_arguments each more).bind ?_)
  exact behind

theorem opens_functionCall (name : Name) (each : ∀ item ∈ items, Opens settings item) :
    Opens settings (.functionCall name items) := by
  have begins : IsFirst (Lexeme.name name).kind := show IsFirst .ident by decide
  show Template.Opens settings 8 (token (.name name) :: tokensOf (Mark.leftParen.lexeme ::
    (itemsLexemes items ++ [Mark.rightParen.lexeme]))) _
  refine opens_primary begins fun more _ => .succ (.andThen (.nextToken begins.1) ?_)
  simp only [tokensOf_append, tokensOf_cons, tokensOf_nil, List.append_assoc, List.cons_append,
    List.nil_append]
  have finished : Parses settings more (fun _ => do
      if (← get).macros.contains (text name) then
        return Node.macroCall .start (text name) (nodes items)
      else return Node.functionCall .start (text name) (nodes items))
        (functionCall name items).node more := by
    refine .const (.get fun state stands => ?_)
    rw [stands.macros]
    exact .pure _
  exact .andThen (.accept (by decide) rfl) ((parses_arguments each more).bind finished)

theorem opens_list (each : ∀ item ∈ items, Opens settings item) : Opens settings (.list items) := by
  show Template.Opens settings 8 (token Mark.leftBracket.lexeme ::
    tokensOf (itemsLexemes items ++ [Mark.rightBracket.lexeme])) _
  refine opens_primary (by decide) fun more _ => .succ (.andThen (.nextToken (by decide)) ?_)
  cases items with
  | nil => exact .succ (.andThen (.accept (by decide) rfl) (.pure _))
  | cons first items =>
      obtain ⟨opens, others⟩ := List.forall_mem_cons.mp each
      have rest := parses_moreItems others more
      obtain ⟨separator, left, same, either⟩ := behind_item items .rightBracket more
      rw [same] at rest
      have single : (token separator.lexeme).kind ≠ .range := by
        rcases either with rfl | rfl <;> decide
      rw [itemsLexemes]
      simp only [tokensOf_append, tokensOf_cons, tokensOf_nil, List.append_assoc, List.cons_append,
        List.nil_append, same]
      refine .succ (.andThen (declines first rfl _) ?_)
      refine (opens.parses (stops_behind_item either left)).bind ?_
      exact .andThen (.decline (sound_mark separator) single) (rest.bind (.pure _))

theorem opens_range {first last : Expression} (opens : Opens settings first)
    (opens' : Opens settings last) : Opens settings (.range first last) := by
  show Template.Opens settings 8 (token Mark.leftBracket.lexeme ::
    tokensOf (first.lexemes ++ Mark.range.lexeme :: (last.lexemes ++ [Mark.rightBracket.lexeme]))) _
  refine opens_primary (by decide) fun more _ => .succ (.andThen (.nextToken (by decide)) ?_)
  have closes : Stops 0 (token Mark.rightBracket.lexeme :: more) := stops_closing rfl more
  simp only [tokensOf_append, tokensOf_cons, tokensOf_nil, List.append_assoc, List.cons_append,
    List.nil_append]
  refine .succ (.andThen (declines first rfl _) ((opens.parses (stops_closing rfl _)).bind ?_))
  refine .andThen (.accept (by decide) rfl) ((opens'.parses closes).bind ?_)
  exact .andThen (.expect (by decide) rfl) (.pure _)

/-! ### Operators -/

theorem opens_unary (op : UnaryOp) {operand : Expression} (opens : Opens settings operand) :
    Opens settings (.unary op operand) := by
  intro more value rest stops behind
  have inner : Parses settings (tokensOf (enclosed (operand.level < 7) operand.lexemes) ++ more)
      Template.unary operand.node more :=
    opens.enclosed (by decide) more operand.node more stops (.pure _)
  rw [lexemes, tokensOf_cons, List.cons_append]
  cases op with
  | not =>
      refine .succ (.andThen (.peekKind (by decide)) (.andThen (.nextToken (by decide)) ?_))
      exact inner.bind behind
  | neg =>
      refine .succ (.andThen (.peekKind (by decide)) (.andThen (.nextToken (by decide)) ?_))
      exact inner.bind behind

theorem opens_filter {operand : Expression} (opens : Opens settings operand) (name : Name) :
    Opens settings (.filter operand name) := by
  intro more value rest stops behind
  have inner : Template.Opens settings 0 (tokensOf operand.lexemes) operand.node :=
    opens.descend operand.level_le (Nat.zero_le _)
  have operand := inner (token Mark.pipe.lexeme :: token (.name name) :: more) value rest
    (stops_mark rfl (by decide) _)
  rw [lexemes_filter]
  simp only [tokensOf_append, tokensOf_cons, tokensOf_nil, List.append_assoc, List.cons_append,
    List.nil_append]
  refine operand (.succ (.andThen (.peekKind (by decide)) (.andThen (.nextToken (by decide)) ?_)))
  exact .andThen (.expectName rfl) behind

theorem operatorLevel_eq (op : BinaryOp) :
    ∃ level < levels, operatorLevel op = level + 1 ∧
      continuation? (Mark.binary op).kind = some (level + 1) ∧
      operatorAt? level (Mark.binary op).kind = some op := by
  cases op <;> exact ⟨_, by decide, rfl, rfl, rfl⟩

theorem opens_binary (op : BinaryOp) {left right : Expression} (opens : Opens settings left)
    (opens' : Opens settings right) : Opens settings (.binary op left right) := by
  obtain ⟨level, below, same, goes, operator⟩ := operatorLevel_eq op
  have leftmost : Template.Opens settings (level + 1)
      (tokensOf (enclosed (left.level < level + 1) left.lexemes)) left.node :=
    opens.enclosed (by simp only [levels] at below; omega)
  have rightmost : Template.Opens settings (level + 2)
      (tokensOf (enclosed (right.level ≤ level + 1) right.lexemes)) right.node :=
    opens_enclosed opens' right.level_le (by simp only [levels] at below; omega)
      (decide_eq_true_iff.trans Nat.lt_succ_iff.symm)
  rw [Expression.Opens, Expression.level, lexemes, same]
  intro more value rest stops behind
  simp only [tokensOf_append, tokensOf_cons, List.append_assoc, List.cons_append]
  refine leftmost _ value rest (stops_mark goes (Nat.lt_succ_self _) _) ?_
  rw [behindAt_of_lt below] at behind ⊢
  refine .succ (.andThen (.peekKind (sound_mark _)) ?_)
  have found : operatorAt? level (token (Mark.binary op).lexeme).kind = some op := operator
  simp only [found]
  refine .andThen (.nextToken (sound_mark _)) ?_
  have operand := rightmost.parses stops (by simp only [levels] at below; omega)
  exact (parses_binary below operand).bind behind

mutual

/-- Every expression is read as its tree from its own tokens. -/
theorem opens : (expression : Expression) → Opens settings expression
  | int n => opens_int n
  | uint n large => opens_uint n large
  | string content => opens_string content
  | bool b => opens_bool b
  | nil => opens_nil
  | symbol name => opens_symbol name
  | field container name => opens_field (opens container) name
  | index container position => opens_index (opens container) (opens position)
  | methodCall invocant name arguments => opens_methodCall (opens invocant) name (opensAll arguments)
  | functionCall name arguments => opens_functionCall name (opensAll arguments)
  | filter operand name => opens_filter (opens operand) name
  | unary op operand => opens_unary op (opens operand)
  | binary op left right => opens_binary op (opens left) (opens right)
  | list items => opens_list (opensAll items)
  | range first last => opens_range (opens first) (opens last)

theorem opensAll : (items : List Expression) → ∀ item ∈ items, Opens settings item
  | [] => List.forall_mem_nil _
  | first :: rest => List.forall_mem_cons.mpr ⟨opens first, opensAll rest⟩

end

end Expression

end Stencil.Template

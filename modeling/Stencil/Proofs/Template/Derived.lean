import Stencil.Proofs.Template.Derivation

/-!
# Derivations are parsed

A derivation whose tags can be read where they stand is parsed as its nodes. Each rule is one step
of the parse, stated for whatever comes behind it.
-/

namespace Stencil.Template

variable {settings : Settings} {situation between after last : Situation}
  {tokens rest more : List Token} {nodes others : List Node} {ending : Ending} {found : Heading}
  {tag : Tag} {allowance : Nat}

/-- With every allowance that the tokens ask for, a block is parsed. -/
def Finishes (settings : Settings) (situation : Situation) (tokens : List Token)
    (value : List Node × Ending) (after : Situation) (rest : List Token) : Prop :=
  ∀ allowance, 16 * tokens.length ≤ allowance →
    Takes settings situation tokens (block allowance) value after rest

/-- With every allowance that the tokens ask for, a heading gets what it asks for. -/
def Completes (settings : Settings) (situation : Situation) (tokens : List Token)
    (found : Heading) (directive : Directive) (after : Situation) (rest : List Token) : Prop :=
  ∀ allowance, 16 * tokens.length + 1 ≤ allowance →
    Takes settings situation tokens (found.complete allowance) directive after rest

/-! ## Tags -/

theorem Tag.length_run_pos (tag : Tag) : 0 < tag.run.length := by
  rw [Tag.run, List.length_append]
  exact Nat.succ_pos _

theorem Tag.length_tokens_pos (tag : Tag) : 0 < tag.tokens.length :=
  Nat.succ_pos _

theorem length_tag (tag : Tag) (rest : List Token) :
    (tag.tokens ++ rest).length = tag.run.length + rest.length + 1 := by
  simp only [Token.Tag.tokens, Tag.run, List.length_append, List.length_cons, List.length_nil]
  omega

/-- The directive of a tag, by its heading. -/
theorem Tag.takes_directive (read : tag.read settings situation = some found) {directive : Directive}
    (completes : Completes settings situation more found directive after rest)
    (enough : 16 * (tag.run.length + more.length) + 12 ≤ allowance) :
    Takes settings situation (tag.run ++ more) (Template.directive allowance) directive after rest := by
  have size := tag.length_run_pos
  obtain ⟨fewer, rfl⟩ := Nat.exists_eq_add_of_le' (show 2 ≤ allowance by omega)
  rw [directive_eq]
  exact (tag.takes read (by omega) more).bind (completes fewer (by omega))

/-- What a directive gives to the block that it stands in, unless it ends the block. -/
def Directive.nodes? : Directive → Option (List Node)
  | node value => some [value]
  | empty => some []
  | close _ => none

/-- What a block does once a tag in it is opened. -/
def afterOpening (allowance : Nat) : Parse (List Node × Ending) := do
  match ← directive allowance with
  | .node node =>
      let (nodes, ending) ← block allowance
      return (node :: nodes, ending)
  | .empty => block allowance
  | .close ending => return ([], ending)

theorem Tag.takes_opening (tag : Tag) (situation : Situation) (more : List Token)
    (allowance : Nat) {value : List Node × Ending}
    (takes : Takes settings situation (tag.run ++ more) (afterOpening allowance) value after rest) :
    Takes settings situation (tag.tokens ++ more) (block (allowance + 1)) value after rest := by
  have opens : Takes settings situation (tag.tokens ++ more) nextToken tag.opening situation
      (tag.run ++ more) := .nextToken (by rw [tag.opens]; nofun)
  refine opens.bind ?_
  rw [tag.opens]
  exact takes

/-- A tag that belongs to a block, and what stands behind it. -/
theorem Finishes.behind (read : tag.read settings situation = some found) {directive : Directive}
    (completes : Completes settings situation more found directive between tokens)
    (gives : directive.nodes? = some nodes) (shorter : tokens.length ≤ more.length)
    (finishes : Finishes settings between tokens (others, ending) after rest) :
    Finishes settings situation (tag.tokens ++ more) (nodes ++ others, ending) after rest := by
  intro allowance enough
  rw [length_tag] at enough
  obtain ⟨fewer, rfl⟩ := Nat.exists_eq_add_of_le' (show 1 ≤ allowance by omega)
  refine tag.takes_opening situation more fewer ?_
  refine (tag.takes_directive read completes (by omega)).bind ?_
  have further := finishes fewer (by omega)
  cases directive with
  | node node =>
      cases gives
      exact further.bind (.pure _)
  | empty =>
      cases gives
      exact further
  | close => cases gives

/-- A tag at which a block ends. -/
theorem Finishes.closed (read : tag.read settings situation = some found)
    (ends : found.ending? = some ending) (more : List Token) :
    Finishes settings situation (tag.tokens ++ more) ([], ending) situation more := by
  have completes : Completes settings situation more found (.close ending) situation more := by
    intro allowance _
    unfold Heading.ending? at ends
    split at ends <;> cases ends <;> exact .pure _
  intro allowance enough
  rw [length_tag] at enough
  obtain ⟨fewer, rfl⟩ := Nat.exists_eq_add_of_le' (show 1 ≤ allowance by omega)
  refine tag.takes_opening situation more fewer ?_
  exact (tag.takes_directive read completes (by omega)).bind (.pure _)

theorem Takes.perform (statement : Statement) (situation : Situation) (tokens : List Token) :
    Takes settings situation tokens statement.perform (statement.node situation).1
      (statement.node situation).2 tokens := by
  cases statement with
  | value node => exact .pure node
  | assignment place name operand => exact (Takes.withFrame _).bind (.pure _)

/-- A tag that no block belongs to. -/
theorem completes_alone (gives : found.nodes? situation = some (nodes, between))
    (more : List Token) :
    ∃ directive : Directive, directive.nodes? = some nodes ∧
      Completes settings situation more found directive between more := by
  cases found with
  | empty =>
      cases gives
      exact ⟨.empty, rfl, fun _ _ => .pure _⟩
  | print place value =>
      cases gives
      exact ⟨.node _, rfl, fun _ _ => .pure _⟩
  | set place name value =>
      cases gives
      exact ⟨.node _, rfl, fun _ _ => (Takes.withFrame _).bind (.pure _)⟩
  | call place statement =>
      cases gives
      exact ⟨.node _, rfl, fun _ _ => (Takes.perform _ _ _).bind (.pure _)⟩
  | plain place statement =>
      cases gives
      refine ⟨.node _, rfl, fun _ _ => (Takes.perform _ _ _).bind ?_⟩
      unfold Heading.plainNode
      cases (statement.node situation).1 <;> exact .pure _
  | inclusion place template bound =>
      cases gives
      exact ⟨.node _, rfl, fun _ _ => .pure _⟩
  | _ => cases gives

theorem Finishes.text {token : Token} (raw : token.kind = .rawText)
    (finishes : Finishes settings situation more (nodes, ending) after rest) :
    Finishes settings situation (token :: more)
      (.text token.place token.value :: nodes, ending) after rest := by
  intro allowance enough
  rw [List.length_cons] at enough
  obtain ⟨fewer, rfl⟩ := Nat.exists_eq_add_of_le' (show 1 ≤ allowance by omega)
  refine (Takes.nextToken (by rw [raw]; nofun)).bind ?_
  rw [raw]
  exact (finishes fewer (by omega)).bind (.pure _)

theorem Finishes.ofInput {token : Token} (ends : token.kind = .eof) (situation : Situation) :
    Finishes settings situation [token] ([], .ofInput token) situation [] := by
  intro allowance enough
  rw [List.length_singleton] at enough
  obtain ⟨fewer, rfl⟩ := Nat.exists_eq_add_of_le' (show 1 ≤ allowance by omega)
  refine (Takes.nextToken (by rw [ends]; nofun)).bind ?_
  rw [ends]
  exact .pure _

/-! ## Blocks of a tag's own -/

/-- A block that ends with its own tag. -/
theorem takes_body {token : Token}
    (finishes : Finishes settings situation tokens (nodes, .ofBlock token) after rest)
    (enough : 16 * tokens.length + 1 ≤ allowance) :
    Takes settings situation tokens (body allowance) nodes after rest := by
  obtain ⟨fewer, rfl⟩ := Nat.exists_eq_add_of_le' (show 1 ≤ allowance by omega)
  exact (finishes fewer (by omega)).bind ((Takes.pure ()).bind (.pure nodes))

/-- A tag with the block that it encloses. -/
theorem completes_enclosing {token : Token} {node : Node}
    (leaves : found.leave? settings situation between nodes = some (node, after))
    (finishes : Finishes settings (found.enter situation) tokens (nodes, .ofBlock token) between rest) :
    Completes settings situation tokens found (.node node) after rest := by
  intro allowance enough
  cases found with
  | forLoop place element source =>
      cases leaves
      refine (Takes.withFrame _).bind ((takes_body finishes enough).bind ?_)
      exact (Takes.changeFrame _).bind (Takes.read.bind (.pure _))
  | whileLoop place condition =>
      cases leaves
      refine (Takes.withFrame _).bind ((takes_body finishes enough).bind ?_)
      exact (Takes.changeFrame _).bind (Takes.read.bind (.pure _))
  | macroDef place name parameters =>
      cases leaves
      refine (Takes.declareMacro _).bind (.get fun state stands => ?_)
      rw [show state.frame = situation.frame from stands.frame]
      refine (Takes.changeFrame fun _ => .ofParameters parameters).bind ?_
      refine (takes_body finishes enough).bind ?_
      exact (Takes.changeFrame fun _ => situation.frame).bind (.pure _)
  | wrapper place template bound =>
      cases leaves
      exact (takes_body finishes (Nat.le_succ_of_le enough)).bind (.pure _)
  | _ => cases leaves

section

variable {positive negative : List Node} {token token' : Token} {place : Place} {condition next : Node}

theorem completes_conditional {value : Node}
    (takes : ∀ allowance, 16 * tokens.length + 1 ≤ allowance →
      Takes settings situation tokens (branches allowance place condition) value after rest) :
    Completes settings situation tokens (.conditional place condition) (.node value) after rest :=
  fun allowance enough => (takes (allowance + 1) (Nat.le_succ_of_le enough)).bind (.pure _)

theorem takes_branches_close
    (finishes : Finishes settings situation tokens (positive, .ofBlock token) after rest)
    (enough : 16 * tokens.length + 1 ≤ allowance) :
    Takes settings situation tokens (branches allowance place condition)
      (.conditional place condition positive []) after rest := by
  obtain ⟨fewer, rfl⟩ := Nat.exists_eq_add_of_le' (show 1 ≤ allowance by omega)
  exact (finishes fewer (by omega)).bind (.pure _)

theorem takes_branches_otherwise
    (finishes : Finishes settings situation tokens (positive, .otherwise token) between more)
    (shorter : more.length < tokens.length)
    (finishes' : Finishes settings between more (negative, .ofBlock token') after rest)
    (enough : 16 * tokens.length + 1 ≤ allowance) :
    Takes settings situation tokens (branches allowance place condition)
      (.conditional place condition positive negative) after rest := by
  obtain ⟨fewer, rfl⟩ := Nat.exists_eq_add_of_le' (show 1 ≤ allowance by omega)
  exact (finishes fewer (by omega)).bind ((takes_body finishes' (by omega)).bind (.pure _))

theorem takes_branches_otherwiseIf {node : Node}
    (finishes : Finishes settings situation tokens (positive, .otherwiseIf token next) between more)
    (shorter : more.length < tokens.length)
    (takes : ∀ allowance, 16 * more.length + 1 ≤ allowance →
      Takes settings between more (branches allowance token.place next) node after rest)
    (enough : 16 * tokens.length + 1 ≤ allowance) :
    Takes settings situation tokens (branches allowance place condition)
      (.conditional place condition positive [node]) after rest := by
  obtain ⟨fewer, rfl⟩ := Nat.exists_eq_add_of_le' (show 1 ≤ allowance by omega)
  exact (finishes fewer (by omega)).bind ((takes fewer (by omega)).bind (.pure _))

end

/-! ## Derivations -/

theorem exists_close (read : tag.read settings situation = some found) (form : tag.form = .close) :
    ∃ token, found.ending? = some (.ofBlock token) := by
  have same := (tag.form_of_read read).trans form
  cases found <;> cases same
  exact ⟨_, rfl⟩

theorem exists_otherwise (read : tag.read settings situation = some found)
    (form : tag.form = .otherwise) : ∃ token, found.ending? = some (.otherwise token) := by
  have same := (tag.form_of_read read).trans form
  cases found <;> cases same
  exact ⟨_, rfl⟩

theorem eq_conditional (read : tag.read settings situation = some found)
    (form : tag.form = .conditional) {place : Place} {condition : Node}
    (asked : found.condition? = some (place, condition)) : found = .conditional place condition := by
  have same := (tag.form_of_read read).trans form
  cases found <;> cases same
  cases asked
  rfl

theorem exists_otherwiseIf (read : tag.read settings situation = some found)
    (form : tag.form = .otherwiseIf) :
    ∃ token condition, found.ending? = some (.otherwiseIf token condition) ∧
      found.condition? = some (token.place, condition) := by
  have same := (tag.form_of_read read).trans form
  cases found <;> cases same
  exact ⟨_, _, rfl, rfl⟩

mutual

theorem Block.finishes : (derived : Block) → ∀ {situation between after nodes others ending more rest},
    derived.nodes? settings situation = some (nodes, between) →
    Finishes settings between more (others, ending) after rest →
    Finishes settings situation (tokensOfItems derived.items ++ more) (nodes ++ others, ending) after rest
  | .nil, _, _, _, _, _, _, _, _, gives, finishes => by
      cases gives
      exact finishes
  | .text token raw derived, _, _, _, _, _, _, _, _, gives, finishes => by
      rw [Block.nodes?] at gives
      obtain ⟨⟨others, _⟩, remaining, ⟨⟩⟩ := Option.bind_eq_some_iff.mp gives
      exact .text raw (derived.finishes remaining finishes)
  | .empty tag _ derived, _, _, _, _, _, _, _, _, gives, finishes
  | .simple tag _ derived, _, _, _, _, _, _, _, _, gives, finishes => by
      rw [Block.nodes?] at gives
      obtain ⟨found, read, gives⟩ := Option.bind_eq_some_iff.mp gives
      obtain ⟨⟨first, _⟩, alone, gives⟩ := Option.bind_eq_some_iff.mp gives
      obtain ⟨⟨others, _⟩, remaining, ⟨⟩⟩ := Option.bind_eq_some_iff.mp gives
      rw [Block.items, tokensOfItems_tag, List.append_assoc, List.append_assoc]
      obtain ⟨directive, same, completes⟩ := completes_alone alone _
      exact .behind read completes same (Nat.le_refl _) (derived.finishes remaining finishes)
  | .conditional tag form body branches derived, _, _, _, _, _, _, _, _, gives, finishes => by
      rw [Block.nodes?] at gives
      obtain ⟨found, read, gives⟩ := Option.bind_eq_some_iff.mp gives
      obtain ⟨⟨place, condition⟩, asked, gives⟩ := Option.bind_eq_some_iff.mp gives
      obtain ⟨⟨positive, _⟩, positives, gives⟩ := Option.bind_eq_some_iff.mp gives
      obtain ⟨⟨negative, _⟩, negatives, gives⟩ := Option.bind_eq_some_iff.mp gives
      obtain ⟨⟨others, _⟩, remaining, ⟨⟩⟩ := Option.bind_eq_some_iff.mp gives
      obtain rfl := eq_conditional read form asked
      simp only [Block.items, tokensOfItems_tag, tokensOfItems_append, List.append_assoc]
      show Finishes settings _ _ ([_] ++ (others ++ _), _) _ _
      refine .behind read (completes_conditional fun allowance enough => ?_) rfl ?_
        (derived.finishes remaining finishes)
      · exact branches.takes (body.finishes positives) negatives enough
      · simp only [List.length_append]
        omega
  | .enclosing tag form body closing closes derived, _, _, _, _, _, _, more, _, gives, finishes => by
      rw [Block.nodes?] at gives
      obtain ⟨found, read, gives⟩ := Option.bind_eq_some_iff.mp gives
      obtain ⟨⟨nodes, inside⟩, inner, gives⟩ := Option.bind_eq_some_iff.mp gives
      obtain ⟨found', read', gives⟩ := Option.bind_eq_some_iff.mp gives
      obtain ⟨⟨node, _⟩, leaves, gives⟩ := Option.bind_eq_some_iff.mp gives
      obtain ⟨⟨others, _⟩, remaining, ⟨⟩⟩ := Option.bind_eq_some_iff.mp gives
      obtain ⟨token, ends⟩ := exists_close read' closes
      simp only [Block.items, tokensOfItems_tag, tokensOfItems_append, List.append_assoc]
      have whole := body.finishes inner (.closed read' ends (tokensOfItems derived.items ++ more))
      rw [List.append_nil] at whole
      show Finishes settings _ _ ([node] ++ (others ++ _), _) _ _
      refine .behind read (completes_enclosing leaves whole) rfl ?_ (derived.finishes remaining finishes)
      simp only [List.length_append]
      omega

theorem Branches.takes : (derived : Branches) → ∀ {situation between after tokens positive negative more
      allowance place condition},
    (∀ {more others ending after rest}, Finishes settings between more (others, ending) after rest →
      Finishes settings situation (tokens ++ more) (positive ++ others, ending) after rest) →
    derived.nodes? settings between = some (negative, after) →
    16 * (tokens ++ (tokensOfItems derived.items ++ more)).length + 1 ≤ allowance →
    Takes settings situation (tokens ++ (tokensOfItems derived.items ++ more))
      (Template.branches allowance place condition) (.conditional place condition positive negative)
      after more
  | .close tag closes, _, _, _, _, _, _, more, _, _, _, body, gives, enough => by
      rw [Branches.nodes?] at gives
      obtain ⟨found, read, ⟨⟩⟩ := Option.bind_eq_some_iff.mp gives
      obtain ⟨token, ends⟩ := exists_close read closes
      have whole := body (.closed read ends more)
      rw [List.append_nil] at whole
      simp only [Branches.items, tokensOfItems_tag, tokensOfItems_nil, List.append_assoc,
        List.nil_append] at enough ⊢
      exact takes_branches_close whole enough
  | .otherwise tag form other closing closes, _, _, _, _, _, _, more, _, _, _, body, gives, enough => by
      rw [Branches.nodes?] at gives
      obtain ⟨found, read, gives⟩ := Option.bind_eq_some_iff.mp gives
      obtain ⟨⟨nodes, _⟩, inner, gives⟩ := Option.bind_eq_some_iff.mp gives
      obtain ⟨found', read', ⟨⟩⟩ := Option.bind_eq_some_iff.mp gives
      obtain ⟨token, ends⟩ := exists_otherwise read form
      obtain ⟨token', ends'⟩ := exists_close read' closes
      simp only [Branches.items, tokensOfItems_tag, tokensOfItems_append, tokensOfItems_nil,
        List.append_assoc, List.nil_append] at enough ⊢
      have whole := body (.closed read ends (tokensOfItems other.items ++ (closing.tokens ++ more)))
      have whole' := other.finishes inner (.closed read' ends' more)
      rw [List.append_nil] at whole whole'
      refine takes_branches_otherwise whole ?_ whole' enough
      simp only [List.length_append]
      have := tag.length_tokens_pos
      omega
  | .otherwiseIf tag form other branches, _, _, _, _, _, _, more, _, _, _, body, gives, enough => by
      rw [Branches.nodes?] at gives
      obtain ⟨found, read, gives⟩ := Option.bind_eq_some_iff.mp gives
      obtain ⟨⟨place, condition⟩, asked, gives⟩ := Option.bind_eq_some_iff.mp gives
      obtain ⟨⟨positive, _⟩, positives, gives⟩ := Option.bind_eq_some_iff.mp gives
      obtain ⟨⟨negative, _⟩, negatives, ⟨⟩⟩ := Option.bind_eq_some_iff.mp gives
      obtain ⟨token, next, ends, asked'⟩ := exists_otherwiseIf read form
      obtain ⟨rfl, rfl⟩ := Prod.mk.inj (Option.some.inj (asked'.symm.trans asked))
      simp only [Branches.items, tokensOfItems_tag, tokensOfItems_append, List.append_assoc]
        at enough ⊢
      have whole := body
        (.closed read ends (tokensOfItems other.items ++ (tokensOfItems branches.items ++ more)))
      rw [List.append_nil] at whole
      refine takes_branches_otherwiseIf whole ?_ (fun allowance enough => ?_) enough
      · simp only [List.length_append]
        have := tag.length_tokens_pos
        omega
      · exact branches.takes (other.finishes positives) negatives enough

end

/-- A conditional with its blocks. -/
theorem completes_branches {derived : Block} {branches : Branches} {positive negative : List Node}
    (inner : derived.nodes? settings situation = some (positive, between))
    (inner' : branches.nodes? settings between = some (negative, after)) (place : Place)
    (condition : Node) (more : List Token) :
    Completes settings situation (tokensOfItems derived.items ++ (tokensOfItems branches.items ++ more))
      (.conditional place condition) (.node (.conditional place condition positive negative)) after
      more :=
  completes_conditional fun _ enough => branches.takes (derived.finishes inner) inner' enough

end Stencil.Template

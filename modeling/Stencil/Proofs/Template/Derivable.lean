import Stencil.Proofs.Template.Derived

/-!
# What does not derive is refused

Texts and tags derive from a block up to where blocks end, or their parse is refused. The tags are
directives when they are taken alone; where they stand, some of them may not be read.
-/

namespace Stencil.Template

variable {settings : Settings} {situation between after : Situation}
  {tokens more rest : List Token} {nodes : List Node} {ending : Ending} {found : Heading}
  {tag : Tag} {token last : Token} {place : Place} {condition : Node} {items : List Item}

/-- With every allowance that the tokens ask for, and something further, a parse is refused. -/
def Rejects {α : Type} (settings : Settings) (situation : Situation) (tokens : List Token)
    (further : Nat) (parse : Nat → Parse α) : Prop :=
  ∀ allowance, 16 * tokens.length + further ≤ allowance →
    Refuses settings situation tokens (parse allowance)

namespace Rejects

/-! ## Blocks -/

theorem text (raw : token.kind = .rawText) (rejects : Rejects settings situation more 0 block) :
    Rejects settings situation (token :: more) 0 block := by
  intro allowance enough
  rw [List.length_cons] at enough
  obtain ⟨fewer, rfl⟩ := Nat.exists_eq_add_of_le' (show 1 ≤ allowance by omega)
  refine (Takes.nextToken (by rw [raw]; nofun)).refuses ?_
  rw [raw]
  exact (rejects fewer (by omega)).bind

/-- A tag in a block, if what it opens is refused. -/
theorem opening (tag : Tag)
    (refuses : ∀ allowance, 16 * (tag.run.length + more.length) + 12 ≤ allowance →
      Refuses settings situation (tag.run ++ more) (afterOpening allowance)) :
    Rejects settings situation (tag.tokens ++ more) 0 block := by
  intro allowance enough
  rw [length_tag] at enough
  obtain ⟨fewer, rfl⟩ := Nat.exists_eq_add_of_le' (show 1 ≤ allowance by omega)
  have opens : Takes settings situation (tag.tokens ++ more) nextToken tag.opening situation
      (tag.run ++ more) := .nextToken (by rw [tag.opens]; nofun)
  refine opens.refuses ?_
  rw [tag.opens]
  exact refuses fewer (by omega)

/-- A tag that cannot be read where it stands. -/
theorem unread (alone : tag.IsDirective settings) (unread : tag.read settings situation = none)
    (more : List Token) : Rejects settings situation (tag.tokens ++ more) 0 block := by
  refine .opening tag fun allowance enough => ?_
  obtain ⟨fewer, rfl⟩ := Nat.exists_eq_add_of_le' (show 2 ≤ allowance by omega)
  have refuses := tag.refuses alone unread (show _ ≤ fewer by omega) more
  rw [afterOpening, directive_eq]
  exact refuses.bind.bind

/-- A tag that does not get what it asks for. -/
theorem incomplete (read : tag.read settings situation = some found)
    (rejects : Rejects settings situation more 1 found.complete) :
    Rejects settings situation (tag.tokens ++ more) 0 block := by
  refine .opening tag fun allowance enough => ?_
  have size := tag.length_run_pos
  obtain ⟨fewer, rfl⟩ := Nat.exists_eq_add_of_le' (show 2 ≤ allowance by omega)
  have refuses := (tag.takes read (show _ ≤ fewer by omega) more).refuses
    (rejects fewer (by omega))
  rw [afterOpening, directive_eq]
  exact refuses.bind

/-- A tag that belongs to a block, if what stands behind it is refused. -/
theorem behind (read : tag.read settings situation = some found) {directive : Directive}
    (completes : Completes settings situation more found directive between tokens)
    (gives : directive.nodes? = some nodes) (shorter : tokens.length ≤ more.length)
    (rejects : Rejects settings between tokens 0 block) :
    Rejects settings situation (tag.tokens ++ more) 0 block := by
  refine .opening tag fun allowance enough => ?_
  have size := tag.length_run_pos
  refine (tag.takes_directive read completes (by omega)).refuses ?_
  have refuses := rejects allowance (by omega)
  cases directive with
  | node => exact refuses.bind
  | empty => exact refuses
  | close => cases gives

/-! ## Blocks of a tag's own -/

theorem body (rejects : Rejects settings situation tokens 0 block) :
    Rejects settings situation tokens 1 body := by
  intro allowance enough
  obtain ⟨fewer, rfl⟩ := Nat.exists_eq_add_of_le' (show 1 ≤ allowance by omega)
  exact (rejects fewer (by omega)).bind

/-- A block with a tag of its own ends at that tag only. -/
theorem body_ended (finishes : Finishes settings situation tokens (nodes, ending) after rest)
    (other : requireEnd ending = unexpected ending.token "END") :
    Rejects settings situation tokens 1 Template.body := by
  intro allowance enough
  obtain ⟨fewer, rfl⟩ := Nat.exists_eq_add_of_le' (show 1 ≤ allowance by omega)
  refine (finishes fewer (by omega)).refuses (.bind ?_)
  rw [other]
  exact .unexpected _

theorem enclosing (form : found.form = .enclosing)
    (rejects : Rejects settings (found.enter situation) tokens 1 Template.body) :
    Rejects settings situation tokens 1 found.complete := by
  intro allowance enough
  cases found with
  | forLoop place element source =>
      exact (Takes.withFrame _).refuses (rejects allowance enough).bind
  | whileLoop place condition =>
      exact (Takes.withFrame _).refuses (rejects allowance enough).bind
  | macroDef place name parameters =>
      refine (Takes.declareMacro _).refuses (.get fun _ _ => ?_)
      exact (Takes.changeFrame fun _ => .ofParameters parameters).refuses
        (rejects allowance enough).bind
  | wrapper place template bound => exact (rejects (allowance + 1) (by omega)).bind
  | _ => cases form

theorem branches_block (rejects : Rejects settings situation tokens 0 block) :
    Rejects settings situation tokens 1 (branches · place condition) := by
  intro allowance enough
  obtain ⟨fewer, rfl⟩ := Nat.exists_eq_add_of_le' (show 1 ≤ allowance by omega)
  exact (rejects fewer (by omega)).bind

/-- A conditional does not end with the input. -/
theorem branches_ofInput
    (finishes : Finishes settings situation tokens (nodes, .ofInput token) after rest) :
    Rejects settings situation tokens 1 (branches · place condition) := by
  intro allowance enough
  obtain ⟨fewer, rfl⟩ := Nat.exists_eq_add_of_le' (show 1 ≤ allowance by omega)
  exact (finishes fewer (by omega)).refuses (.unexpected _)

theorem branches_otherwise
    (finishes : Finishes settings situation tokens (nodes, .otherwise token) between more)
    (shorter : more.length < tokens.length)
    (rejects : Rejects settings between more 1 Template.body) :
    Rejects settings situation tokens 1 (branches · place condition) := by
  intro allowance enough
  obtain ⟨fewer, rfl⟩ := Nat.exists_eq_add_of_le' (show 1 ≤ allowance by omega)
  exact (finishes fewer (by omega)).refuses (rejects fewer (by omega)).bind

theorem branches_otherwiseIf {next : Node}
    (finishes : Finishes settings situation tokens (nodes, .otherwiseIf token next) between more)
    (shorter : more.length < tokens.length)
    (rejects : Rejects settings between more 1 (branches · token.place next)) :
    Rejects settings situation tokens 1 (branches · place condition) := by
  intro allowance enough
  obtain ⟨fewer, rfl⟩ := Nat.exists_eq_add_of_le' (show 1 ≤ allowance by omega)
  exact (finishes fewer (by omega)).refuses (rejects fewer (by omega)).bind

theorem conditional (rejects : Rejects settings situation tokens 1 (branches · place condition)) :
    Rejects settings situation tokens 1 (Heading.conditional place condition).complete :=
  fun allowance enough => (rejects (allowance + 1) (Nat.le_succ_of_le enough)).bind

end Rejects

/-! ## Sequences -/

/-- Where a block ends: before which items, how, and with which tokens left. -/
inductive EndsBefore (settings : Settings) (last : Token) (situation : Situation) :
    List Item → Ending → List Token → Prop
  | input : EndsBefore settings last situation [] (.ofInput last) []
  | tag {tag : Tag} {found : Heading} {ending : Ending}
      (read : tag.read settings situation = some found) (ends : found.ending? = some ending)
      (items : List Item) :
      EndsBefore settings last situation (.tag tag :: items) ending (tokensOfItems items ++ [last])

/-- The items begin with a block. -/
inductive Derives (settings : Settings) (last : Token) (situation : Situation) : List Item → Prop
  | block {nodes : List Node} {after : Situation} {items : List Item} {ending : Ending}
      {rest : List Token} (derived : Block)
      (gives : derived.nodes? settings situation = some (nodes, after))
      (stops : EndsBefore settings last after items ending rest) :
      Derives settings last situation (derived.items ++ items)

/-- The items begin with a block and the tag that closes it. -/
inductive Encloses (settings : Settings) (situation : Situation) : List Item → Prop
  | body {nodes : List Node} {after : Situation} {closing : Tag} {found : Heading} (derived : Block)
      (gives : derived.nodes? settings situation = some (nodes, after))
      (closes : closing.form = .close) (read : closing.read settings after = some found)
      (items : List Item) :
      Encloses settings situation (derived.items ++ .tag closing :: items)

/-- The items begin with a block and the other branches of a conditional. -/
inductive Branching (settings : Settings) (situation : Situation) : List Item → Prop
  | branches {positive negative : List Node} {between after : Situation} (derived : Block)
      (gives : derived.nodes? settings situation = some (positive, between)) (branches : Branches)
      (gives' : branches.nodes? settings between = some (negative, after)) (items : List Item) :
      Branching settings situation (derived.items ++ (branches.items ++ items))

theorem EndsBefore.finishes (stops : EndsBefore settings last situation items ending rest)
    (final : last.kind = .eof) :
    Finishes settings situation (tokensOfItems items ++ [last]) ([], ending) situation rest := by
  cases stops with
  | input => exact .ofInput final situation
  | tag read ends items =>
      rw [tokensOfItems_tag, List.append_assoc]
      exact .closed read ends _

theorem Block.finishes_stop {derived : Block}
    (gives : derived.nodes? settings situation = some (nodes, after))
    (stops : EndsBefore settings last after items ending rest) (final : last.kind = .eof) :
    Finishes settings situation (tokensOfItems (derived.items ++ items) ++ [last]) (nodes, ending)
      after rest := by
  have finishes := derived.finishes gives (stops.finishes final)
  rwa [List.append_nil, ← List.append_assoc, ← tokensOfItems_append] at finishes

/-- The outcome of a block, for sequences up to some length. -/
def Settles (settings : Settings) (last : Token) (size : Nat) : Prop :=
  ∀ items, items.length ≤ size → Directives settings items → ∀ situation,
    Derives settings last situation items ∨
      Rejects settings situation (tokensOfItems items ++ [last]) 0 block

/-- A tag with a block of its own finds its closing tag, or it is refused. -/
theorem encloses_or_rejects (final : last.kind = .eof)
    (outcome : Derives settings last situation items ∨
      Rejects settings situation (tokensOfItems items ++ [last]) 0 block) :
    Encloses settings situation items ∨
      Rejects settings situation (tokensOfItems items ++ [last]) 1 body := by
  rcases outcome with ⟨derived, gives, stops⟩ | rejects
  · have finishes := Block.finishes_stop gives stops final
    cases stops with
    | input => exact .inr (.body_ended finishes rfl)
    | @tag closing found ending read ends items =>
        have form := closing.form_of_read read
        cases found with
        | close => exact .inl (.body derived gives form.symm read items)
        | otherwise | otherwiseIf =>
            cases ends
            exact .inr (.body_ended finishes rfl)
        | _ => cases ends
  · exact .inr rejects.body

theorem length_behind (items : List Item) (tag : Tag) (items' : List Item) (last : Token) :
    (tokensOfItems items' ++ [last]).length <
      (tokensOfItems (items ++ .tag tag :: items') ++ [last]).length := by
  have := tag.length_tokens_pos
  simp only [tokensOfItems_append, tokensOfItems_tag, List.length_append]
  omega

/-- A conditional has its branches, or it is refused. -/
theorem branching_or_rejects {size : Nat} (final : last.kind = .eof)
    (settles : Settles settings last size) (fits : items.length ≤ size)
    (directives : Directives settings items) (situation : Situation) (place : Place)
    (condition : Node) :
    Branching settings situation items ∨
      Rejects settings situation (tokensOfItems items ++ [last]) 1
        (branches · place condition) := by
  induction count : items.length using Nat.strongRecOn generalizing items situation place condition with
  | ind length ih =>
      subst count
      rcases settles items fits directives situation with ⟨derived, gives, stops⟩ | rejects
      · have finishes := Block.finishes_stop gives stops final
        cases stops with
        | input => exact .inr (.branches_ofInput finishes)
        | @tag tag found ending read ends items =>
            have form := tag.form_of_read read
            have directives := (directives.subset (List.subset_append_right _ _)).tail
            have fewer : items.length < (derived.items ++ .tag tag :: items).length := by
              simp only [List.length_append, List.length_cons]
              omega
            have shorter := length_behind derived.items tag items last
            cases found with
            | close token =>
                exact .inl (.branches derived gives (.close tag form.symm)
                  (Branches.nodes?_close form.symm read) items)
            | otherwise token =>
                cases ends
                rcases encloses_or_rejects final (settles items (by omega) directives _) with
                  ⟨other, inner, closes, read', items⟩ | rejects
                · have whole := Branching.branches derived gives _
                    (Branches.nodes?_otherwise form.symm closes read inner read') items
                  simp only [Branches.items, List.cons_append, List.append_assoc,
                    List.nil_append] at whole
                  exact .inl whole
                · exact .inr (.branches_otherwise finishes shorter rejects)
            | otherwiseIf token next =>
                cases ends
                rcases ih _ fewer (by omega) directives _ token.place next rfl with
                  ⟨other, inner, branches, inner', items⟩ | rejects
                · have whole := Branching.branches derived gives _
                    (Branches.nodes?_otherwiseIf form.symm read rfl inner inner') items
                  simp only [Branches.items, List.cons_append, List.append_assoc] at whole
                  exact .inl whole
                · exact .inr (.branches_otherwiseIf finishes shorter rejects)
            | _ => cases ends
      · exact .inr rejects.branches_block

/-! ## Tags of a block -/

theorem exists_nodes (form : found.form = .empty ∨ found.form = .simple) (situation : Situation) :
    ∃ nodes after, found.nodes? situation = some (nodes, after) := by
  rcases form with form | form <;> cases found <;> first | exact ⟨_, _, rfl⟩ | cases form

theorem exists_leave (form : found.form = .enclosing) (settings : Settings)
    (situation inside : Situation) (nodes : List Node) :
    ∃ node after, found.leave? settings situation inside nodes = some (node, after) := by
  cases found <;> first | exact ⟨_, _, rfl⟩ | cases form

/-- A tag that no block belongs to, and what stands behind it. -/
theorem alone_or_rejects (read : tag.read settings situation = some found)
    (form : found.form = .empty ∨ found.form = .simple)
    (outcome : ∀ situation, Derives settings last situation items ∨
      Rejects settings situation (tokensOfItems items ++ [last]) 0 block) :
    Derives settings last situation (.tag tag :: items) ∨
      Rejects settings situation (tokensOfItems (.tag tag :: items) ++ [last]) 0 block := by
  obtain ⟨nodes, after, gives⟩ := exists_nodes form situation
  rcases outcome after with ⟨derived, behind, stops⟩ | rejects
  · rw [tag.form_of_read read] at form
    rcases form with form | form
    · exact .inl (.block (.empty tag form derived) (Block.nodes?_empty form read gives behind) stops)
    · exact .inl (.block (.simple tag form derived) (Block.nodes?_simple form read gives behind) stops)
  · obtain ⟨directive, same, completes⟩ := completes_alone gives (tokensOfItems items ++ [last])
    rw [tokensOfItems_tag, List.append_assoc]
    exact .inr (.behind read completes same (Nat.le_refl _) rejects)

/-- A conditional, and what stands behind it. -/
theorem conditional_or_rejects (read : tag.read settings situation = some (.conditional place condition))
    (branching : Branching settings situation items ∨
      Rejects settings situation (tokensOfItems items ++ [last]) 1 (branches · place condition))
    (outcome : ∀ situation items', items' <:+ items → Derives settings last situation items' ∨
      Rejects settings situation (tokensOfItems items' ++ [last]) 0 block) :
    Derives settings last situation (.tag tag :: items) ∨
      Rejects settings situation (tokensOfItems (.tag tag :: items) ++ [last]) 0 block := by
  have form := tag.form_of_read read
  rcases branching with @⟨_, _, _, after, body, inner, branches, inner', items⟩ | rejects
  · rcases outcome after items ((List.suffix_append _ _).trans (List.suffix_append _ _)) with
      ⟨derived, behind, stops⟩ | rejects
    · have whole := Derives.block _ (Block.nodes?_conditional form.symm read rfl inner inner' behind) stops
      simp only [Block.items, List.cons_append, List.append_assoc] at whole
      exact .inl whole
    · simp only [tokensOfItems_tag, tokensOfItems_append, List.append_assoc]
      refine .inr (.behind read (completes_branches inner inner' place condition _) rfl ?_ rejects)
      simp only [List.length_append]
      omega
  · rw [tokensOfItems_tag, List.append_assoc]
    exact .inr (.incomplete read rejects.conditional)

/-- A tag with a block of its own, and what stands behind it. -/
theorem enclosing_or_rejects (final : last.kind = .eof)
    (read : tag.read settings situation = some found) (form : found.form = .enclosing)
    (outcome : ∀ situation items', items' <:+ items → Derives settings last situation items' ∨
      Rejects settings situation (tokensOfItems items' ++ [last]) 0 block) :
    Derives settings last situation (.tag tag :: items) ∨
      Rejects settings situation (tokensOfItems (.tag tag :: items) ++ [last]) 0 block := by
  have form' := (tag.form_of_read read).symm.trans form
  rcases encloses_or_rejects final (outcome (found.enter situation) items List.suffix_rfl) with
    @⟨nodes, inside, closing, closed, body, inner, closes, read', items⟩ | rejects
  · obtain ⟨node, after, leaves⟩ := exists_leave form settings situation inside nodes
    have suffix : items <:+ body.items ++ .tag closing :: items :=
      (List.suffix_cons _ _).trans (List.suffix_append _ _)
    rcases outcome after items suffix with ⟨derived, behind, stops⟩ | rejects
    · have whole := Derives.block _
        (Block.nodes?_enclosing form' closes read inner read' leaves behind) stops
      simp only [Block.items, List.cons_append, List.append_assoc] at whole
      exact .inl whole
    · obtain ⟨token, ends⟩ := exists_close read' closes
      have finishes := body.finishes inner (.closed read' ends (tokensOfItems items ++ [last]))
      rw [List.append_nil] at finishes
      simp only [tokensOfItems_tag, tokensOfItems_append, List.append_assoc]
      refine .inr (.behind read (completes_enclosing leaves finishes) rfl ?_ rejects)
      simp only [List.length_append]
      omega
  · rw [tokensOfItems_tag, List.append_assoc]
    exact .inr (.incomplete read (.enclosing form rejects))

/-- Directives derive from a block up to where blocks end, or their parse is refused. -/
theorem settles (final : last.kind = .eof) (size : Nat) : Settles settings last size := by
  induction size with
  | zero =>
      intro items fits _ situation
      obtain rfl := List.eq_nil_of_length_eq_zero (Nat.le_zero.mp fits)
      exact .inl (.block .nil rfl .input)
  | succ size ih =>
      intro items fits directives situation
      cases items with
      | nil => exact .inl (.block .nil rfl .input)
      | cons item items =>
          have fewer : items.length ≤ size := Nat.le_of_succ_le_succ fits
          cases item with
          | text token raw =>
              have directives := directives.tail
              rcases ih items fewer directives situation with ⟨derived, behind, stops⟩ | rejects
              · exact .inl (.block (.text token raw derived) (Block.nodes?_text raw behind) stops)
              · exact .inr (.text raw rejects)
          | tag tag =>
              cases read : tag.read settings situation with
              | none =>
                  rw [tokensOfItems_tag, List.append_assoc]
                  exact .inr (.unread (directives tag List.mem_cons_self) read _)
              | some found =>
                  have outcome (situation : Situation) (items' : List Item) (suffix : items' <:+ items) :=
                    ih items' (Nat.le_trans suffix.length_le fewer)
                      (directives.tail.subset suffix.subset) situation
                  cases found with
                  | empty =>
                      exact alone_or_rejects read (.inl rfl) (outcome · items List.suffix_rfl)
                  | print | set | call | plain | inclusion =>
                      exact alone_or_rejects read (.inr rfl) (outcome · items List.suffix_rfl)
                  | conditional place condition =>
                      have branching := branching_or_rejects final ih fewer
                        directives.tail situation place condition
                      exact conditional_or_rejects read branching outcome
                  | forLoop | whileLoop | macroDef | wrapper =>
                      exact enclosing_or_rejects final read rfl outcome
                  | otherwiseIf | otherwise | close =>
                      exact .inl (.block .nil rfl (.tag read rfl items))

end Stencil.Template

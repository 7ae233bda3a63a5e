import Stencil.Proofs.Template.Descent
import Stencil.Proofs.Template.Reading
import Stencil.Proofs.Token.Segments

/-!
# Tags

A tag is read by itself, from its own tokens, in the situation where it stands. What is read this
way is read in the template too, whatever stands behind the tag.
-/

namespace Stencil

namespace Template

open Token (Kind Complete)

/-- A tag of a template whose tokens are as a scanner gives them. -/
structure Tag extends Token.Tag where
  opens : opening.kind = .tagStart
  inside : ∀ token ∈ inner, token.kind.isInner = true
  closes : closing.kind = .tagEnd

/-- A text or a tag. -/
inductive Item where
  | text (token : Token) (raw : token.kind = .rawText)
  | tag (tag : Tag)

def Item.tokens : Item → List Token
  | text token _ => [token]
  | tag parts => parts.tokens

def tokensOfItems (items : List Item) : List Token :=
  items.flatMap Item.tokens

@[simp]
theorem tokensOfItems_nil : tokensOfItems [] = [] :=
  rfl

@[simp]
theorem tokensOfItems_tag (tag : Tag) (items : List Item) :
    tokensOfItems (.tag tag :: items) = tag.tokens ++ tokensOfItems items :=
  rfl

@[simp]
theorem tokensOfItems_append (items items' : List Item) :
    tokensOfItems (items ++ items') = tokensOfItems items ++ tokensOfItems items' :=
  List.flatMap_append

variable {settings : Settings} {situation before before' : Situation} {rest rest' : List Token}
  {allowance : Nat} {found : Heading}

namespace Tag

/-- What stands behind the opening. -/
def run (tag : Tag) : List Token :=
  tag.inner ++ [tag.closing]

def form (tag : Tag) : Form :=
  .ofKind (tag.inner.headD tag.closing).kind

/-- The heading that a tag is read as, if there is one. -/
def read (settings : Settings) (tag : Tag) (situation : Situation) : Option Heading :=
  match heading (allowanceFor tag.run) settings (situation.start tag.run) with
  | .ok (found, _) => some found
  | .error _ => none

variable {tag : Tag}

theorem exists_cons (tag : Tag) :
    ∃ first others, tag.run = first :: others ∧ tag.form = .ofKind first.kind := by
  unfold run form
  cases tag.inner with
  | nil => exact ⟨_, _, rfl, rfl⟩
  | cons first others => exact ⟨_, _, rfl, rfl⟩

theorem runs (tag : Tag) (settings : Settings) (before before' : Situation)
    (rest rest' : List Token) :
    (across settings before before' rest rest').Runs tag.run tag.run := by
  refine .of_forall₂ (List.forall₂_same.mpr fun _ _ => rfl) (fun token inside ends => ?_) rfl tag.closes
  have inner := tag.inside token inside
  rw [ends] at inner
  cases inner

theorem rereads {like : Node → Node → Prop} {blocks : String → Bool} {other : Nat} (tag : Tag)
    (allowance : Nat) (likeness : Likeness (across settings before before' rest rest') like)
    (assigns : Assigns like blocks) (enough : 16 * tag.run.length + 10 ≤ other) :
    Rereads (across settings before before' rest rest')
      (fun found => ∃ name ∈ found.assigned?, blocks name = true) tag.run tag.run
      (heading allowance) (heading other)
      fun found found' => found.Like like found' ∧ found.form = tag.form := by
  obtain ⟨first, others, run, form⟩ := tag.exists_cons
  have runs := tag.runs settings before before' rest rest'
  rw [run] at runs enough ⊢
  rw [form]
  exact rereads_heading likeness assigns id runs enough

theorem exists_of_read (read : tag.read settings situation = some found) :
    ∃ stop, heading (allowanceFor tag.run) settings (situation.start tag.run) = .ok (found, stop) := by
  unfold Tag.read at read
  split at read
  · next stop ran =>
      cases read
      exact ⟨stop, ran⟩
  · cases read

theorem le_allowanceFor (tag : Tag) : 16 * tag.run.length + 10 ≤ allowanceFor tag.run := by
  unfold allowanceFor
  omega

end Tag

/-! ## In the template -/

theorem eq_of_bound {bound bound' : List (String × Node)} (alike : Bound Eq bound bound') :
    bound = bound' := by
  have same : (fun binding binding' : String × Node => binding.1 = binding'.1 ∧ binding.2 = binding'.2) =
      Eq := by
    funext binding binding'
    exact propext Prod.ext_iff.symm
  rwa [Bound, same, List.forall₂_eq_eq_eq] at alike

theorem Statement.Like.eq {statement statement' : Statement} (alike : statement.Like Eq statement') :
    statement = statement' := by
  cases alike with
  | value same => rw [same]
  | assignment name same same' => rw [same, same']

theorem Heading.Like.eq {found found' : Heading} (alike : found.Like Eq found') :
    found = found' := by
  cases alike with
  | call _ same | plain _ same => rw [same.eq]
  | inclusion _ same same' | wrapper _ same same' => rw [same, eq_of_bound same']
  | print _ same | set _ _ same | conditional _ same | otherwiseIf _ same | forLoop _ _ same
  | whileLoop _ same => rw [same]
  | empty | otherwise | close | macroDef => rfl

theorem assigns_again : Assigns Eq fun _ => false := by
  rintro node _ name rfl named
  exact named

namespace Tag

variable {tag : Tag}

theorem rereads_again (tag : Tag) (settings : Settings) (situation : Situation)
    (rest rest' : List Token) (allowance : Nat) {other : Nat}
    (enough : 16 * tag.run.length + 10 ≤ other) :
    Rereads (again settings situation rest rest') (fun _ => False) tag.run tag.run
      (heading allowance) (heading other)
      fun found found' => found = found' ∧ found.form = tag.form := by
  have rereads : Rereads (again settings situation rest rest') _ _ _ _ _ _ :=
    tag.rereads allowance likeness_again assigns_again enough
  have free : (fun found : Heading => ∃ name ∈ found.assigned?, (fun _ => false) name = true) =
      fun _ => False := by
    funext found
    exact eq_false fun ⟨_, _, blocked⟩ => nomatch blocked
  rw [free] at rereads
  exact rereads.mono fun _ _ ⟨alike, form⟩ => ⟨alike.eq, form⟩

theorem stands_run (tag : Tag) (situation : Situation) :
    (situation.start tag.run).Stands situation (tag.run ++ []) := by
  rw [List.append_nil]
  exact situation.stands_start _

/-- The heading of a tag is read whatever stands behind the tag. -/
theorem takes (read : tag.read settings situation = some found)
    (enough : 16 * tag.run.length + 10 ≤ allowance) (rest : List Token) :
    Takes settings situation (tag.run ++ rest) (heading allowance) found situation rest := by
  obtain ⟨stop, ran⟩ := exists_of_read read
  intro start stands
  obtain ⟨-, result⟩ := tag.rereads_again settings situation [] rest _ enough _ start found stop
    (tag.stands_run situation) stands ran
  obtain ⟨-, _, stop', ran', ⟨rfl, -⟩, standing⟩ := result.resolve_right fun refused => refused.1
  exact ⟨stop', ran', standing⟩

theorem form_of_read (read : tag.read settings situation = some found) : found.form = tag.form := by
  obtain ⟨stop, ran⟩ := exists_of_read read
  obtain ⟨-, result⟩ := tag.rereads_again settings situation [] [] _ tag.le_allowanceFor _ _ found stop
    (tag.stands_run situation) (tag.stands_run situation) ran
  obtain ⟨-, _, _, _, ⟨-, form⟩, -⟩ := result.resolve_right fun refused => refused.1
  exact form

/-- A heading that is read in the template is that of the tag by itself. -/
theorem read_of_run {start stop : State} (stands : start.Stands situation (tag.run ++ rest))
    (ran : heading allowance settings start = .ok (found, stop)) :
    tag.read settings situation = some found := by
  obtain ⟨-, result⟩ := tag.rereads_again settings situation rest [] _ tag.le_allowanceFor start _
    found stop stands (tag.stands_run situation) ran
  obtain ⟨-, _, stop', ran', ⟨rfl, -⟩, -⟩ := result.resolve_right fun refused => refused.1
  rw [Tag.read, show heading _ settings _ = _ from ran']

end Tag

/-! ## In other situations -/

/-- The state of a loop cannot be assigned to, unless a variable hides it. -/
def Situation.blocks (situation : Situation) (name : String) : Bool :=
  name == "loop" && (situation.frame.lookup? name).isNone && !situation.frame.loops.isEmpty

/-- What can be assigned to without any variables can be assigned to in a situation, if it is not
blocked. -/
def Named (situation : Situation) (node node' : Node) : Prop :=
  assignedName? node' = (assignedName? node).filter fun name => !situation.blocks name

theorem assigns_named : Assigns (Named situation) situation.blocks := by
  intro node node' name alike named
  rw [Named, named] at alike
  rw [alike, Option.filter_some]
  cases situation.blocks name <;> rfl

theorem assignedName?_literal {place : Place} {source : String} {node : Node}
    (denoted : literal place source = .ok node) : assignedName? node = none := by
  obtain ⟨_, rfl⟩ | ⟨_, rfl⟩ | ⟨_, rfl⟩ := number_of_literal denoted
  all_goals rfl

theorem named_resolve (place : Place) (name : String) :
    Named situation (Situation.plain.frame.resolve place name)
      (situation.frame.resolve place name) := by
  rw [Named, resolve_plain, assignedName?, Option.filter_some, Situation.blocks]
  unfold Frame.resolve
  cases found : situation.frame.lookup? name with
  | some slot => simp [assignedName?]
  | none =>
      cases loops : situation.frame.loops with
      | nil => simp [assignedName?]
      | cons slot outer =>
          by_cases called : name = "loop"
          · subst called
            rfl
          · simp [assignedName?, called]

theorem likeness_named :
    Likeness (across settings .plain situation rest rest') (Named situation) where
  literal := by
    rintro token _ node ⟨⟩ denoted
    refine ⟨node, denoted, ?_⟩
    rw [Named, assignedName?_literal denoted]
    rfl
  string _ := rfl
  bool _ _ := rfl
  nil _ := rfl
  name := by
    rintro token _ ⟨⟩
    exact named_resolve token.place token.value
  call := by
    rintro token _ arguments arguments' ⟨⟩ _
    have none (situation : Situation) (arguments : List Node) :
        assignedName? (situation.call token.place token.value arguments) = none := by
      unfold Situation.call
      split <;> rfl
    show assignedName? _ = (assignedName? _).filter _
    rw [none, none]
    rfl
  field _ _ _ := rfl
  index _ _ _ := rfl
  methodCall _ _ _ _ := rfl
  filter _ _ _ := rfl
  unary _ _ _ := rfl
  binary _ _ _ _ := rfl
  list _ _ := rfl
  range _ _ _ := rfl

namespace Tag

variable {tag : Tag}

/-- Taken alone, a tag is a directive. -/
def IsDirective (settings : Settings) (tag : Tag) : Prop :=
  (tag.read settings .plain).isSome

end Tag

/-- Taken alone, each tag is a directive. -/
def Directives (settings : Settings) (items : List Item) : Prop :=
  ∀ tag, Item.tag tag ∈ items → tag.IsDirective settings

def Item.isDirective (settings : Settings) : Item → Bool
  | text _ _ => true
  | tag parts => (parts.read settings .plain).isSome

theorem all_isDirective {items : List Item} :
    items.all (Item.isDirective settings) = true ↔ Directives settings items := by
  rw [List.all_eq_true]
  refine ⟨fun all tag inside => all _ inside, fun directives item inside => ?_⟩
  cases item with
  | text => rfl
  | tag tag => exact directives tag inside

instance {items : List Item} : Decidable (Directives settings items) :=
  decidable_of_iff _ all_isDirective

theorem Directives.subset {items items' : List Item} (directives : Directives settings items)
    (subset : items' ⊆ items) : Directives settings items' :=
  fun tag inside => directives tag (subset inside)

theorem Directives.tail {item : Item} {items : List Item}
    (directives : Directives settings (item :: items)) : Directives settings items :=
  directives.subset (List.subset_cons_self _ _)

theorem Directives.parts {item : Item} {items items' : List Item}
    (directives : Directives settings (item :: (items ++ items'))) :
    Directives settings items ∧ Directives settings items' :=
  ⟨directives.tail.subset (List.subset_append_left _ _),
    directives.tail.subset (List.subset_append_right _ _)⟩

namespace Tag

variable {tag : Tag}

/-- A tag that can be read alone can be read in every situation, unless it assigns to the state of a
loop there. -/
theorem read_of_alone (alone : tag.read settings .plain = some found) (situation : Situation) :
    (¬∃ name ∈ found.assigned?, situation.blocks name = true) ∧
        (∃ found', tag.read settings situation = some found' ∧ found.Like (Named situation) found') ∨
      (∃ name ∈ found.assigned?, situation.blocks name = true) ∧
        tag.read settings situation = none := by
  obtain ⟨stop, ran⟩ := exists_of_read alone
  obtain ⟨-, result⟩ := tag.rereads _ likeness_named assigns_named tag.le_allowanceFor _ _ found stop
    (tag.stands_run .plain) (tag.stands_run situation) ran
  unfold Tag.read
  refine result.imp ?_ ?_
  · rintro ⟨free, found', stop', ran', ⟨alike, -⟩, -⟩
    refine ⟨free, found', ?_, alike⟩
    rw [show heading _ settings _ = _ from ran']
  · rintro ⟨blocked, problem, -, failed⟩
    refine ⟨blocked, ?_⟩
    rw [show heading _ settings _ = _ from failed]

/-- A tag that cannot be read where it stands is refused there. -/
theorem refuses (alone : tag.IsDirective settings) (unread : tag.read settings situation = none)
    (enough : 16 * tag.run.length + 10 ≤ allowance) (rest : List Token) :
    Refuses settings situation (tag.run ++ rest) (heading allowance) := by
  obtain ⟨found, alone⟩ := Option.isSome_iff_exists.mp alone
  obtain ⟨stop, ran⟩ := exists_of_read alone
  intro start stands
  obtain ⟨-, result⟩ := tag.rereads _ likeness_named assigns_named enough _ start found stop
    (tag.stands_run .plain) stands ran
  rcases result with ⟨-, found', stop', ran', -⟩ | ⟨-, failed⟩
  · cases unread.symm.trans (read_of_run stands ran')
  · exact failed

end Tag

/-! ## The items of a template -/

section

variable {dialect : Token.Dialect} {scanner : Token.Scanner}

/-- What a step outside tags gives. -/
inductive StepsOutside : Token × Token.Scanner → Prop
  | text {token : Token} {next : Token.Scanner} (raw : token.kind = .rawText)
      (outside : next.inTag = false) : StepsOutside (token, next)
  | opening {token : Token} {next : Token.Scanner} (opens : token.kind = .tagStart)
      (inTag : next.inTag = true) : StepsOutside (token, next)
  | ending {token : Token} {next : Token.Scanner} (ends : token.kind.endsStream = true) :
      StepsOutside (token, next)

theorem stepsOutside_textToken (outside : scanner.inTag = false) :
    StepsOutside (scanner.textToken dialect) := by
  fun_induction Token.Scanner.textToken dialect scanner with
  | case1 => exact .ending rfl
  | case2 => exact .text rfl outside
  | case3 => exact .ending rfl
  | case4 _ _ _ _ _ _ _ _ _ _ _ ih => exact ih outside
  | case5 => exact .ending rfl
  | case6 => exact .opening rfl rfl
  | case7 _ _ _ _ _ _ _ _ _ ih => exact ih outside
  | case8 => exact .text rfl outside

theorem inTag_trimLine (scanner : Token.Scanner) : scanner.trimLine.inTag = scanner.inTag := by
  unfold Token.Scanner.trimLine
  split <;> rfl

theorem exists_items_collect (usual : dialect.symbols = .standard) (allowed : Nat)
    (outside : scanner.inTag = false) (complete : Complete (scanner.collect dialect allowed)) :
    ∃ items ending, scanner.collect dialect allowed = tokensOfItems items ++ [ending] ∧
      ending.kind = .eof := by
  induction allowed using Nat.strongRecOn generalizing scanner with
  | ind allowed ih =>
      cases allowed with
      | zero => cases complete
      | succ allowed =>
          rw [Token.collect_succ, Token.Scanner.next, if_neg (Bool.eq_false_iff.mp outside)]
            at complete ⊢
          have steps : StepsOutside (scanner.trimLine.textToken dialect) :=
            stepsOutside_textToken ((inTag_trimLine scanner).trans outside)
          generalize scanner.trimLine.textToken dialect = step at steps complete
          cases steps with
          | @text token next raw outside =>
              have further : token.kind.endsStream = false := by rw [raw]; rfl
              rw [Token.resume_of_further further] at complete ⊢
              obtain ⟨items, ending, same, ends⟩ := ih allowed (Nat.lt_succ_self _) outside
                (complete.tail fun same => by cases raw.symm.trans same)
              exact ⟨.text token raw :: items, ending, congrArg (token :: ·) same, ends⟩
          | @opening token next opens inTag =>
              have further : token.kind.endsStream = false := by rw [opens]; rfl
              rw [Token.resume_of_further further] at complete ⊢
              obtain ⟨inner, closing, -, -, next, fewer, same, complete, less, outside, -, inside,
                closes, -⟩ := Token.Scanner.complete_inside usual inTag
                  (complete.tail fun same => by cases opens.symm.trans same)
              obtain ⟨items, ending, same', ends⟩ :=
                ih fewer (Nat.lt_succ_of_lt less) outside complete
              let tag : Tag := ⟨⟨token, inner, closing⟩, opens, inside, closes⟩
              refine ⟨.tag tag :: items, ending, ?_, ends⟩
              rw [same, same']
              simp [tokensOfItems, Item.tokens, Token.Tag.tokens, tag]
          | @ending token next ends =>
              rw [Token.resume_of_ending ends] at complete ⊢
              exact ⟨[], token, rfl, Option.some.inj complete⟩

/-- What is scanned to its end consists of texts and tags. -/
theorem exists_items (usual : dialect.symbols = .standard) {source : String}
    (complete : Complete (Token.scan dialect source)) :
    ∃ items ending, Token.scan dialect source = tokensOfItems items ++ [ending] ∧
      ending.kind = .eof :=
  exists_items_collect usual _ rfl complete

end

end Template

end Stencil

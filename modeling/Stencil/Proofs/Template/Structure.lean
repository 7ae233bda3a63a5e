import Stencil.Proofs.Template.Derivable
import Stencil.Proofs.Template.LoopNames

/-!
# Block structure

A template is parsed if and only if its texts and tags derive from a block, by a derivation none of
whose tags assigns to the state of a loop. The nodes are then those of the derivation.
-/

namespace Stencil.Template

open Token (Complete Kind)

variable {settings : Settings} {situation after : Situation} {tokens rest : List Token}
  {nodes : List Node} {ending : Ending} {token last : Token} {items : List Item}

/-! ## Whole templates -/

theorem takes_template
    (finishes : Finishes settings situation tokens (nodes, .ofInput token) after rest) :
    Takes settings situation tokens (template (allowanceFor tokens)) ⟨settings.template, nodes⟩ after
      rest := by
  have enough : 16 * tokens.length ≤ allowanceFor tokens := by
    unfold allowanceFor
    omega
  exact (finishes _ enough).bind (Takes.read.bind (.pure _))

theorem refuses_template (rejects : Rejects settings situation tokens 0 block) :
    Refuses settings situation tokens (template (allowanceFor tokens)) := by
  have enough : 16 * tokens.length + 0 ≤ allowanceFor tokens := by
    unfold allowanceFor
    omega
  exact (rejects _ enough).bind

/-- A template does not end at a tag. -/
theorem refuses_stray {found : Heading} (ends : found.ending? = some ending)
    (finishes : Finishes settings situation tokens (nodes, ending) after rest) :
    Refuses settings situation tokens (template (allowanceFor tokens)) := by
  have enough : 16 * tokens.length ≤ allowanceFor tokens := by
    unfold allowanceFor
    omega
  refine (finishes _ enough).refuses ?_
  cases found with
  | otherwiseIf | otherwise | close =>
      cases ends
      exact .fault nofun
  | _ => cases ends

theorem ofTokens_eq (settings : Settings) (tokens : List Token) :
    ofTokens settings tokens =
      (template (allowanceFor tokens) settings (Situation.plain.start tokens)).map Prod.fst := by
  show (template (allowanceFor tokens) settings (Situation.plain.start tokens) >>= _) = _
  cases template (allowanceFor tokens) settings (Situation.plain.start tokens) <;> rfl

theorem ofTokens_of_takes {result : Template} (takes : Takes settings .plain tokens
    (template (allowanceFor tokens)) result after rest) : ofTokens settings tokens = .ok result := by
  obtain ⟨stop, ran, -⟩ := takes _ (Situation.plain.stands_start tokens)
  rw [ofTokens_eq, ran]
  rfl

theorem faults_of_refuses
    (refuses : Refuses settings .plain tokens (template (allowanceFor tokens))) :
    Faults (ofTokens settings tokens) := by
  obtain ⟨problem, real, failed⟩ := refuses _ (Situation.plain.stands_start tokens)
  refine ⟨problem, real, ?_⟩
  rw [ofTokens_eq, failed]
  rfl

/-! ## Derivations -/

/-- Texts and tags derive from a block, by a derivation that assigns to no loop's state. -/
def Derivable (settings : Settings) (items : List Item) : Prop :=
  ∃ derived : Block, derived.items = items ∧ derived.KeepsLoops settings

/-- The tags of a derivation can be read where they stand if none assigns to a loop's state. -/
theorem Block.isSome_nodes? {derived : Block} (directives : Directives settings derived.items) :
    (derived.nodes? settings .plain).isSome = (derived.loopName? settings .plain).isSome := by
  have follows := derived.follows directives .plain
  rw [show Situation.plain.frame.loopName = .plain from rfl] at follows
  revert follows
  generalize derived.nodes? settings .plain = result
  generalize derived.loopName? settings .plain = told
  intro follows
  cases follows <;> rfl

theorem ofTokens_derived (final : last.kind = .eof) {derived : Block}
    (directives : Directives settings derived.items) (keeps : derived.KeepsLoops settings) :
    ∃ nodes after, derived.nodes? settings .plain = some (nodes, after) ∧
      ofTokens settings (tokensOfItems derived.items ++ [last]) =
        .ok ⟨settings.template, nodes⟩ := by
  rw [Block.KeepsLoops, ← Block.isSome_nodes? directives] at keeps
  obtain ⟨⟨nodes, after⟩, gives⟩ := Option.isSome_iff_exists.mp keeps
  have finishes := Block.finishes_stop gives .input final
  rw [List.append_nil] at finishes
  exact ⟨nodes, after, gives, ofTokens_of_takes (takes_template finishes)⟩

theorem derivable_or_faults (final : last.kind = .eof) (directives : Directives settings items) :
    Derivable settings items ∨ Faults (ofTokens settings (tokensOfItems items ++ [last])) := by
  rcases settles final items.length items (Nat.le_refl _) directives .plain with
    ⟨derived, gives, stops⟩ | rejects
  · have finishes := Block.finishes_stop gives stops final
    cases stops with
    | input =>
        rw [List.append_nil] at directives ⊢
        refine .inl ⟨derived, rfl, ?_⟩
        rw [Block.KeepsLoops, ← Block.isSome_nodes? directives, gives]
        rfl
    | tag read ends items => exact .inr (faults_of_refuses (refuses_stray ends finishes))
  · exact .inr (faults_of_refuses (refuses_template rejects))

/-- The settings of a template in a dialect. -/
def settingsOf (dialect : Token.Dialect) (name : String) : Settings :=
  ⟨name, dialect.closing, dialect.maxIterations⟩

/-- What is scanned consists of texts and tags. If each tag is a directive when it is taken alone,
the template is parsed exactly if its texts and tags are derivable; the template then has the nodes
of the derivation. Otherwise it has a fault of the grammar. -/
theorem parse_structure {dialect : Token.Dialect} (usual : dialect.symbols = .standard)
    {source : String} (complete : Complete (Token.scan dialect source)) (name : String) :
    (∃ items last, Token.scan dialect source = tokensOfItems items ++ [last]) ∧
      ∀ items last, Token.scan dialect source = tokensOfItems items ++ [last] →
        Directives (settingsOf dialect name) items →
          ((∃ result, parse dialect name source = .ok result) ↔
            Derivable (settingsOf dialect name) items) ∧
          (∀ derived : Block, derived.items = items →
            derived.KeepsLoops (settingsOf dialect name) →
              ∃ nodes after, derived.nodes? (settingsOf dialect name) .plain = some (nodes, after) ∧
                parse dialect name source = .ok ⟨name, nodes⟩) ∧
          (¬Derivable (settingsOf dialect name) items → Faults (parse dialect name source)) := by
  obtain ⟨found, ending, whole, -⟩ := exists_items usual complete
  refine ⟨⟨found, ending, whole⟩, fun items last same directives => ?_⟩
  have final : last.kind = .eof := by
    rw [same, Complete, List.getLast?_concat] at complete
    exact Option.some.inj complete
  have parsed : parse dialect name source =
      ofTokens (settingsOf dialect name) (tokensOfItems items ++ [last]) := by
    rw [parse, same]
    rfl
  rw [parsed]
  have derived (derived : Block) (made : derived.items = items)
      (keeps : derived.KeepsLoops (settingsOf dialect name)) :
      ∃ nodes after, derived.nodes? (settingsOf dialect name) .plain = some (nodes, after) ∧
        ofTokens (settingsOf dialect name) (tokensOfItems items ++ [last]) = .ok ⟨name, nodes⟩ := by
    subst made
    exact ofTokens_derived final directives keeps
  refine ⟨⟨?_, ?_⟩, derived, fun underivable => ?_⟩
  · rintro ⟨result, ran⟩
    refine (derivable_or_faults final directives).resolve_right ?_
    rintro ⟨problem, -, failed⟩
    cases ran.symm.trans failed
  · rintro ⟨block, made, keeps⟩
    obtain ⟨nodes, -, -, ran⟩ := derived block made keeps
    exact ⟨_, ran⟩
  · exact (derivable_or_faults final directives).resolve_left underivable

section

/-- A token of the first line. -/
def tokenAt (offset : Nat) (kind : Kind) (value : String) : Token :=
  ⟨kind, ⟨offset, 1⟩, value⟩

def tagAt (start : Nat) (inner : List Token) (stop : Nat)
    (inside : ∀ token ∈ inner, token.kind.isInner = true) : Tag :=
  ⟨⟨tokenAt start .tagStart "[%", inner, tokenAt stop .tagEnd "%]"⟩, rfl, inside, rfl⟩

/-- A conditional with a further condition. -/
def choice : Block :=
  .conditional
    (tagAt 0 [tokenAt 3 .unlessWord "UNLESS", tokenAt 10 .ident "a"] 12 (by decide)) rfl
    (.text (tokenAt 14 .rawText "b") rfl .nil)
    (.otherwiseIf (tagAt 15 [tokenAt 18 .elsifWord "ELSIF", tokenAt 24 .ident "c"] 26 (by decide)) rfl
      .nil (.close (tagAt 28 [tokenAt 31 .endWord "END"] 35 (by decide)) rfl))
    .nil

theorem choice_structure :
    ∃ nodes after, choice.nodes? (settingsOf .standard "t") .plain = some (nodes, after) ∧
      parse .standard "t" "[% UNLESS a %]b[% ELSIF c %][% END %]" = .ok ⟨"t", nodes⟩ := by
  have usual : Token.Dialect.standard.symbols = .standard := rfl
  have same : Token.scan .standard "[% UNLESS a %]b[% ELSIF c %][% END %]" =
      tokensOfItems choice.items ++ [tokenAt 37 .eof ""] := by decide +kernel
  have complete : Complete (Token.scan .standard "[% UNLESS a %]b[% ELSIF c %][% END %]") := by
    rw [same]
    rfl
  obtain ⟨-, structured⟩ := parse_structure usual complete "t"
  obtain ⟨-, derived, -⟩ := structured _ _ same (by decide +kernel)
  exact derived choice rfl (by decide +kernel)

/-- An assignment to the state of a loop. -/
def assignedLoop : Block :=
  .enclosing
    (tagAt 0 [tokenAt 3 .foreachWord "FOREACH", tokenAt 11 .ident "x", tokenAt 13 .inWord "IN",
      tokenAt 16 .ident "y"] 18 (by decide)) rfl
    (.simple (tagAt 20 [tokenAt 23 .ident "loop", tokenAt 28 .assign "=", tokenAt 30 .number "1"] 32
      (by decide)) rfl .nil)
    (tagAt 34 [tokenAt 37 .endWord "END"] 41 (by decide)) rfl .nil

/-- The tags are directives and derive from a block, but there is no template. -/
theorem assigned_loop_refused :
    Complete (Token.scan .standard "[% FOREACH x IN y %][% loop = 1 %][% END %]") ∧
      Token.scan .standard "[% FOREACH x IN y %][% loop = 1 %][% END %]" =
        tokensOfItems assignedLoop.items ++ [tokenAt 43 .eof ""] ∧
      Directives (settingsOf .standard "t") assignedLoop.items ∧
      ¬∃ result, parse .standard "t" "[% FOREACH x IN y %][% loop = 1 %][% END %]" = .ok result := by
  have same : Token.scan .standard "[% FOREACH x IN y %][% loop = 1 %][% END %]" =
      tokensOfItems assignedLoop.items ++ [tokenAt 43 .eof ""] := by decide +kernel
  rw [parse, same]
  refine ⟨rfl, rfl, by decide +kernel, ?_⟩
  rintro ⟨result, ran⟩
  have failed : (ofTokens (settingsOf .standard "t")
      (tokensOfItems assignedLoop.items ++ [tokenAt 43 .eof ""])).isOk = false := by
    decide +kernel
  rw [show ofTokens (settingsOf .standard "t") _ = _ from ran] at failed
  cases failed

end

end Stencil.Template

import Stencil.Proofs.Compilation.Correctness
import Stencil.Proofs.Compilation.Reachable
import Stencil.Proofs.Meaning.Total

/-!
# Halting

Every run of compiled code comes to an end, even where templates include one another or macros call
themselves: calls nest only so deep, and loops have ceilings.
-/

namespace Stencil

/-- Dialects whose ceiling of loops is below the largest number that counts rounds. -/
def Token.Dialect.Countable (dialect : Token.Dialect) : Prop :=
  dialect.maxIterations < 2 ^ 63 - 1

theorem Node.Proper.bounded {macros : List String} {max ceiling : Nat} {node : Node}
    (proper : node.Proper macros max) (below : max ≤ ceiling) : node.Bounded ceiling := by
  cases node with
  | forLoop place element slot source body most =>
      obtain ⟨rfl, _⟩ := proper
      exact below
  | whileLoop place condition body slot most =>
      obtain ⟨rfl, _⟩ := proper
      exact below
  | _ => trivial

/-- The loops of a text have a ceiling that rounds can be counted up to. -/
theorem FromText.bounded {template : Template} {code : Code}
    (source : FromText Token.Dialect.Countable template code) :
    ∀ inner ∈ template.walk, inner.Bounded (2 ^ 63 - 1) := by
  obtain ⟨text, _, name, small, parses, _⟩ := source
  obtain ⟨macros, _, proper⟩ := Template.proper_of_parse parses
  intro inner inside
  exact (proper inner inside).bounded (Nat.le_of_lt small)

namespace Machine

variable {σ : Type} {environment : Environment σ} {holds : σ → Prop}

theorem tame_surroundingsOf :
    Meaning.Tame (2 ^ 63 - 1) (surroundingsOf environment Token.Dialect.Countable) none := by
  refine ⟨?_, nofun⟩
  intro find present name store template after found
  obtain ⟨load, _, rfl⟩ := Option.map_eq_some_iff.mp present
  rw [treesBehind_eq] at found
  exact of_treesPaired (fun _ _ source => source.bounded) nofun found

/-- Compiled code ends, whatever it loops over or calls. -/
theorem compiled_ends {text : Text} {optimize : Bool} {name : String} {code : Code} {store : σ}
    (compiling : ∀ load ∈ environment.loader, Compiling Token.Dialect.Countable holds load)
    (compiled : text.compile optimize name = .ok code) (small : text.dialect.Countable)
    (held : holds store) :
    ∃ report after, Ends environment code store report after := by
  obtain ⟨template, source⟩ := fromText_of_compile small compiled
  let surroundings := surroundingsOf environment Token.Dialect.Countable
  have bounded := source.bounded
  have total := @Meaning.total_renderWithin _ _ (2 ^ 63) surroundings surroundings.limits.maxDepth
    tame_surroundingsOf (by decide) (by decide) (.ofTemplate template)
    (fun _ _ defined inner inside =>
      bounded inner (Meaning.mem_walkAll_of_definition? defined inner inside))
    template.nodes bounded
  cases rendered : Meaning.render surroundings (2 ^ 63) template store with
  | none =>
      exact absurd (Option.map_eq_none_iff.mp rendered) (total _)
  | some outcome =>
      obtain ⟨report, after⟩ := outcome
      obtain ⟨after', ends, _⟩ := ends_of_render source.built (loads_of_compiling compiling)
        ⟨rfl, held⟩ rendered
      exact ⟨report, after', ends⟩

/-- A text that loops for ever and includes itself in each round. -/
def echo : Text where
  dialect := .standard
  now := ⟨0⟩
  content := "[% WHILE 1 %]a[% INCLUDE 'echo' %][% END %]"

def echoes : Texts Unit := fun _ store => (.ok echo, store)

theorem echo_ends :
    ∃ code, echo.compile true "echo" = .ok code ∧ ∃ report after,
      Ends ⟨.builtins, .standard, some (loaderOf true echoes), []⟩ code () report after := by
  have compiles : (echo.compile true "echo").toOption.isSome = true := by decide +kernel
  have small : Token.Dialect.standard.Countable := by
    unfold Token.Dialect.Countable
    decide
  have compiling : ∀ load ∈ some (loaderOf true echoes),
      Compiling Token.Dialect.Countable (fun _ => True) load := by
    intro load found
    obtain rfl := Option.some.inj found
    refine compiling_of_texts true echoes ?_
    rintro _ _ _ _ ⟨⟩
    exact small
  cases made : echo.compile true "echo" with
  | error failure =>
      rw [made] at compiles
      cases compiles
  | ok code => exact ⟨code, rfl, compiled_ends compiling made small trivial⟩

end Machine

end Stencil

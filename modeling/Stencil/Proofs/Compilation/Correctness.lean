import Stencil.Proofs.Compilation.Runs
import Stencil.Proofs.Compilation.Texts

/-!
# Compiled templates run as they are rendered

Code does what rendering its tree does: it prints the same, warns of the same and ends alike, even
where it fails.
-/

namespace Stencil.Machine

open Meaning (Surroundings Trees)

variable {σ τ : Type}

/-- The code that a template was compiled to ends as rendering the template does, with the same
report, and only where that has an outcome. A run that does not use up its allowance shows it. -/
theorem compiled_ends_as_rendered {surroundings : Surroundings σ} {loader : Option (Loader τ)}
    {related : σ → τ → Prop} {template : Template} {code : Code} {store : σ} {store' : τ}
    (compiled : Compiled template code)
    (loads : Loads Compiled related surroundings.trees loader) (matched : related store store') :
    (∀ report after', Ends (environmentOf surroundings loader) code store' report after' →
      ∃ rounds after, Meaning.render surroundings rounds template store = some (report, after) ∧
        related after after') ∧
    ∀ rounds report after,
      Meaning.render surroundings rounds template store = some (report, after) →
      ∃ after', Ends (environmentOf surroundings loader) code store' report after' ∧
        related after after' ∧
        ((run (environmentOf surroundings loader) code store').1.ending ≠ .unfinished →
          run (environmentOf surroundings loader) code store' = (report, after')) := by
  have loads := loads.mono fun _ _ => Compiled.built
  constructor
  · intro report after' ends
    exact render_of_ends compiled.built loads matched ends
  · intro rounds report after rendered
    obtain ⟨after', ends, matched⟩ := ends_of_render compiled.built loads matched rendered
    exact ⟨after', ends, matched, ends.run_eq⟩

/-- A page that calls a macro in a loop and includes a part. -/
def page : Text where
  dialect := .standard
  now := ⟨0⟩
  content := "[% MACRO em(x) BLOCK %]<[% x %]>[% END %]" ++
    "[% FOREACH n IN [1, 2] %][% em(n) %][% END %]" ++
    "[% INCLUDE 'part' WITH who = 'you' %]"
  short := by decide +kernel

def parts : Texts Unit := fun name store =>
  if name = "part" then (.ok { dialect := .standard, now := ⟨0⟩, content := "hi [% who %]" }, store)
  else (.error (.load (.notFound name)), store)

theorem page_ends_as_rendered :
    ∃ template code, Compiled template code ∧
      Loads Compiled Eq (some (treesOf parts)) (some (loaderOf false parts)) ∧
      ∃ rounds, Meaning.render ⟨.builtins, .standard, some (treesOf parts), []⟩ rounds template () =
        some (⟨.finished, "<1><2>hi you", []⟩, ()) := by
  have ran : ((page.compile false "page").toOption.map fun code =>
      (runFor ⟨.builtins, .standard, some (loaderOf false parts), []⟩ 200 (start code ())).report) =
      some ⟨.finished, "<1><2>hi you", []⟩ := by
    decide +kernel
  obtain ⟨failure, _, failed⟩ | ⟨template, code, _, made, compiled⟩ := page.tree_compile "page"
  · rw [failed] at ran
    cases ran
  · rw [made] at ran
    refine ⟨template, code, compiled, loads_of_texts parts, ?_⟩
    have shown := Option.some.inj ran
    have ends : Ends (environmentOf ⟨.builtins, .standard, some (treesOf parts), []⟩
        (some (loaderOf false parts))) code () ⟨.finished, "<1><2>hi you", []⟩ () := by
      refine ⟨200, ?_, shown, rfl⟩
      have past := congrArg Report.ending shown
      intro unfinished
      exact nomatch unfinished.symm.trans past
    obtain ⟨rounds, _, rendered, rfl⟩ :=
      (compiled_ends_as_rendered compiled (loads_of_texts parts) rfl).1 _ _ ends
    exact ⟨rounds, rendered⟩

/-! ## Fused prints -/

/-- What templates run in that come from texts, if there are any. -/
def environmentWith (optimize : Bool) (library : Library) (limits : Limits)
    (texts : Option (Texts σ)) (given : Dictionary Value) : Environment σ :=
  ⟨library, limits, texts.map (loaderOf optimize), given⟩

/-- Codes that belong to one tree end alike, where each runs with code for the trees that are
included. -/
theorem ends_alike {surroundings : Surroundings σ} {template : Template} {code code' : Code}
    {loader loader' : Option (Loader σ)} {store after : σ} {report : Report}
    (built : Built template code) (built' : Built template code')
    (loads : Loads Built Eq surroundings.trees loader)
    (loads' : Loads Built Eq surroundings.trees loader')
    (ends : Ends (environmentOf surroundings loader) code store report after) :
    Ends (environmentOf surroundings loader') code' store report after := by
  obtain ⟨rounds, _, rendered, rfl⟩ := render_of_ends built loads rfl ends
  obtain ⟨_, ends', rfl⟩ := ends_of_render built' loads' rfl rendered
  exact ends'

/-- A text that is compiled with its prints fused, and with those of all templates that it includes,
fails to compile as it does without, or its code ends with the same reports. -/
theorem fused_ends_alike (library : Library) (limits : Limits) (texts : Option (Texts σ))
    (given : Dictionary Value) (text : Text) (name : String) (store : σ) :
    match text.compile false name, text.compile true name with
    | .error failure, .error failure' => failure = failure'
    | .ok code, .ok code' => ∀ report after,
        Ends (environmentWith false library limits texts given) code store report after ↔
          Ends (environmentWith true library limits texts given) code' store report after
    | _, _ => False := by
  let surroundings : Surroundings σ := ⟨library, limits, texts.map treesOf, given⟩
  have loads : Loads Built Eq surroundings.trees (texts.map (loaderOf false)) := by
    cases texts with
    | none => trivial
    | some texts => exact (loads_of_texts texts).mono fun _ _ => Compiled.built
  have loads' : Loads Built Eq surroundings.trees (texts.map (loaderOf true)) := by
    cases texts with
    | none => trivial
    | some texts => exact loads_of_texts_optimize texts
  rw [text.compile_optimize]
  obtain ⟨failure, _, failed⟩ | ⟨template, code, _, made, compiled⟩ := text.tree_compile name
  · rw [failed]
    rfl
  · rw [made]
    intro report after
    constructor
    · exact ends_alike compiled.built compiled.built_optimize loads loads'
    · exact ends_alike compiled.built_optimize compiled.built loads' loads

end Stencil.Machine

import Stencil.Proofs.Compilation.Statements

/-!
# Runs of templates

The code of a template runs as the template is rendered: the run ends where rendering has an
outcome, with the same report, and goes on where some loop of the rendering goes round too often.
-/

namespace Stencil.Machine

open Meaning (Surroundings World definition?)

variable {σ τ : Type}

/-- What the machine runs in where a template is rendered in its surroundings. -/
def environmentOf (surroundings : Surroundings σ) (loader : Option (Loader τ)) : Environment τ :=
  ⟨surroundings.library, surroundings.limits, loader, surroundings.vars⟩

namespace Scene

/-- The scene in which the code of a template starts. -/
def ofTemplate (surroundings : Surroundings σ) (loader : Option (Loader τ)) (related : σ → τ → Prop)
    (rounds : Nat) (template : Template) (code : Code) : Scene σ τ where
  surroundings := surroundings
  loader := loader
  related := related
  rounds := rounds
  definitions name := definition? name template.nodes
  activation := ⟨.start code.name, code, code.ops.toArray, 0, 0, none⟩
  callers := []
  below := []
  depth := 0

end Scene

variable {surroundings : Surroundings σ} {loader : Option (Loader τ)} {related : σ → τ → Prop}
  {template : Template} {code : Code} {store : σ} {store' : τ}

/-- The world in which rendering starts. -/
def firstWorld (store : σ) : World σ := ⟨[], "", 0, #[], store⟩

/-- The last state of a run before it ends well. -/
structure Halting (related : σ → τ → Prop) (after : World σ) (last : State τ) : Prop where
  halts : last.current.ops[last.current.ip]? = some .halt
  alone : last.callers = []
  output : last.output = after.written
  warnings : last.warnings = after.warnings
  store : related after.store last.store

/-- The run of a template follows its rendering. -/
theorem follows_render (rounds : Nat) (built : Built template code)
    (loads : Loads Built related surroundings.trees loader) (matched : related store store') :
    (Scene.ofTemplate surroundings loader related rounds template code).Follows rounds
      (fun _ => True) .output (start code store')
      (Meaning.renderWithin surroundings rounds surroundings.limits.maxDepth (.ofTemplate template)
        template.nodes (firstWorld store))
      fun _ after last => Halting related after last := by
  let scene := Scene.ofTemplate surroundings loader related rounds template code
  have ready : scene.Ready (Scene.calleesWithin surroundings rounds surroundings.limits.maxDepth)
      template :=
    ⟨@Scene.serves_calleesWithin _ _ _ scene loads (Nat.zero_add _), ⟨built, rfl⟩, loads⟩
  obtain ⟨plain, code', emits, fused, stream⟩ := built.body.code
  have performs := Scene.performs_emits ready emits fused built.body.sound
  have narrow : ∀ op ∈ code', op.Narrow := fun op among =>
    built.body.narrow op (stream ▸ List.mem_append_left _ among)
  have laid := @Scene.laid_of_toList _ _ scene (fun _ => True) [] code' [.halt] 0 stream nofun rfl
    narrow fun _ _ _ _ _ => trivial
  have context : scene.context = .ofTemplate template := by
    unfold Meaning.Context.ofTemplate
    rw [← built.name]
    rfl
  rw [Scene.renderWithin_eq, ← context]
  refine (@performs (fun _ => True) (fun _ _ => trivial) ⟨.output, [], [], 0, .nil, .nil⟩
    (firstWorld store) store' _ laid matched).mono ?_
  rintro _ after _ ⟨accumulator, second, store', rfl, matched⟩
  refine ⟨?_, rfl, rfl, rfl, matched⟩
  show code.ops.toArray[0 + code'.length]? = _
  simp [stream]

/-- A rendering that has an outcome is the end of the run. -/
theorem ends_of_render {rounds : Nat} {report : Report} {after : σ} (built : Built template code)
    (loads : Loads Built related surroundings.trees loader) (matched : related store store')
    (rendered : Meaning.render surroundings rounds template store = some (report, after)) :
    ∃ after', Ends (environmentOf surroundings loader) code store' report after' ∧
      related after after' := by
  have follows := follows_render rounds built loads matched
  unfold Meaning.render at rendered
  obtain ⟨⟨result, world⟩, acted, shown⟩ := Option.map_eq_some_iff.mp rendered
  rw [firstWorld, acted] at follows
  cases shown
  cases result with
  | ok value =>
      obtain ⟨count, last, path, halting⟩ := follows
      change Path (environmentOf surroundings loader) _ _ _ _ at path
      have stopped : step (environmentOf surroundings loader) last = .finished last := by
        rw [Scene.step_halt halting.halts, leave, halting.alone]
      refine ⟨last.store, ⟨count + 1, ?_⟩, halting.store⟩
      have ran : runFor (environmentOf surroundings loader) (count + 1) (start code store') =
          .finished last := by
        rw [path.runFor_eq, runFor, stopped]
      rw [ran]
      refine ⟨Outcome.ended_finished last, ?_, rfl⟩
      simp only [Outcome.report, Outcome.ending, Outcome.state, halting.output, halting.warnings]
  | error failure =>
      obtain ⟨count, last, failed, path, _, _, stepped, shown, warned, related⟩ := follows
      change Path (environmentOf surroundings loader) _ _ _ _ at path
      refine ⟨failed.store, ⟨count + 1, ?_⟩, related⟩
      rw [path.runFor_ended stepped 0]
      refine ⟨Outcome.ended_failed failure failed, ?_, rfl⟩
      simp only [Outcome.report, Outcome.ending, Outcome.state, shown, warned]
      rfl

/-- Where rendering has no outcome, the run goes on as long as loops go round. -/
theorem runs_on_of_render {rounds : Nat} (built : Built template code)
    (loads : Loads Built related surroundings.trees loader) (matched : related store store')
    (endless : Meaning.render surroundings rounds template store = none) :
    ¬ (runFor (environmentOf surroundings loader) rounds (start code store')).Ended := by
  have follows := follows_render rounds built loads matched
  unfold Meaning.render at endless
  rw [firstWorld, Option.map_eq_none_iff.mp endless] at follows
  obtain ⟨count, last, enough, path⟩ := follows
  change Path (environmentOf surroundings loader) _ _ _ _ at path
  intro ended
  have stays := runFor_add_of_ended ended (count - rounds)
  rw [Nat.add_sub_cancel' enough, ← Nat.add_zero count, path.runFor_eq] at stays
  rw [← stays] at ended
  exact ended rfl

/-- The end of a run is the outcome of a rendering in which loops may go round often enough. -/
theorem render_of_ends {report : Report} {after' : τ} (built : Built template code)
    (loads : Loads Built related surroundings.trees loader) (matched : related store store')
    (ends : Ends (environmentOf surroundings loader) code store' report after') :
    ∃ rounds after, Meaning.render surroundings rounds template store = some (report, after) ∧
      related after after' := by
  obtain ⟨allowance, ended, shown⟩ := ends
  cases rendered : Meaning.render surroundings allowance template store with
  | none => exact absurd ended (runs_on_of_render built loads matched rendered)
  | some outcome =>
      obtain ⟨report', after⟩ := outcome
      obtain ⟨after'', ends, related⟩ := ends_of_render built loads matched rendered
      obtain ⟨rfl, rfl⟩ := ends.unique ⟨allowance, ended, shown⟩
      exact ⟨allowance, after, rendered, related⟩

end Stencil.Machine

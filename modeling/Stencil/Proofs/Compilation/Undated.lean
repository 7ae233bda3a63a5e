import Stencil.Proofs.Code.Faithful
import Stencil.Proofs.Compilation.Texts

/-!
# Code apart from its moment

What a text is compiled to does not depend on when that happens: the moment is written into the code
and changes nothing else.
-/

namespace Stencil

/-- The code as it would be if it was generated at the start of 1970. -/
def Code.undated (code : Code) : Code :=
  { code with generatedAt := ⟨0⟩ }

theorem Code.eq_of_undated {code other : Code} (same : code.undated = other.undated)
    (moment : code.generatedAt = other.generatedAt) : code = other := by
  obtain ⟨name, generatedAt, ops, macros⟩ := code
  obtain ⟨_, _, _, _⟩ := other
  cases same
  cases moment
  rfl

theorem Template.compile_undated (template : Template) (now : Time) :
    (template.compile now).map Code.undated = template.compile ⟨0⟩ := by
  unfold compile
  cases Emit.stream (Emit.topLevel [] template.nodes) with
  | error problem => rfl
  | ok emitted =>
      obtain ⟨macros, ops⟩ := emitted
      have checked : Code.check ⟨template.name, now, ops, macros⟩ =
          Code.check ⟨template.name, ⟨0⟩, ops, macros⟩ := rfl
      simp only [bind, Except.bind, checked]
      cases Code.check ⟨template.name, ⟨0⟩, ops, macros⟩ with
      | error fault => rfl
      | ok sound => rfl

theorem compileSource_undated (dialect : Token.Dialect) (optimize : Bool) (now : Time)
    (name source : String) :
    (compileSource dialect optimize now name source).map Code.undated =
      compileSource dialect optimize ⟨0⟩ name source := by
  have plain : (compileSource dialect false now name source).map Code.undated =
      compileSource dialect false ⟨0⟩ name source := by
    unfold compileSource
    cases Template.parse dialect name source with
    | error problem => rfl
    | ok template =>
        simp only [mapError_ok, bind, Except.bind, ← template.compile_undated now]
        cases template.compile now with
        | error problem => rfl
        | ok code => rfl
  cases optimize with
  | false => exact plain
  | true =>
      rw [compileSource_optimize, compileSource_optimize, ← plain]
      cases compileSource dialect false now name source with
      | error failure => rfl
      | ok code => rfl

theorem exists_of_compileSource_optimize {dialect : Token.Dialect} {now : Time}
    {name source : String} {code : Code}
    (compiled : compileSource dialect true now name source = .ok code) :
    ∃ plain, compileSource dialect false now name source = .ok plain ∧ code = plain.optimize := by
  rw [compileSource_optimize] at compiled
  cases made : compileSource dialect false now name source with
  | error failure =>
      rw [made] at compiled
      cases compiled
  | ok plain =>
      rw [made] at compiled
      cases compiled
      exact ⟨plain, rfl, rfl⟩

/-- A text that is compiled once is compiled to the same code at any other moment. -/
theorem compileSource_eq_ok {dialect : Token.Dialect} {optimize : Bool} {now : Time}
    {name source : String} {code : Code}
    (compiled : compileSource dialect optimize now name source = .ok code) :
    compileSource dialect optimize ⟨0⟩ name source = .ok code.undated := by
  rw [← compileSource_undated dialect optimize now, compiled]
  rfl

theorem generatedAt_of_compileSource {dialect : Token.Dialect} {optimize : Bool} {now : Time}
    {name source : String} {code : Code}
    (compiled : compileSource dialect optimize now name source = .ok code) :
    code.generatedAt = now := by
  have plain {code : Code} (compiled : compileSource dialect false now name source = .ok code) :
      code.generatedAt = now := by
    simp only [compileSource, bind_eq_ok, mapError_eq_ok] at compiled
    obtain ⟨template, _, _, made, ⟨⟩⟩ := compiled
    obtain ⟨ops, macros, _, rfl, _⟩ := compile_eq_ok made
    rfl
  cases optimize with
  | false => exact plain compiled
  | true =>
      obtain ⟨before, made, rfl⟩ := exists_of_compileSource_optimize compiled
      show before.generatedAt = now
      exact plain made

/-- Code is what its text is compiled to at its moment, if that is so but for the moment. -/
theorem compileSource_of_undated {dialect : Token.Dialect} {optimize : Bool} {name source : String}
    {code : Code} (compiled : compileSource dialect optimize ⟨0⟩ name source = .ok code.undated) :
    compileSource dialect optimize code.generatedAt name source = .ok code := by
  rw [← compileSource_undated dialect optimize code.generatedAt] at compiled
  cases made : compileSource dialect optimize code.generatedAt name source with
  | error failure =>
      rw [made] at compiled
      cases compiled
  | ok other =>
      rw [made] at compiled
      have same : other.undated = code.undated := Except.ok.inj compiled
      have moment := generatedAt_of_compileSource made
      exact congrArg Except.ok (Code.eq_of_undated same moment)

/-! ## The table of macros -/

namespace Dictionary

variable {α : Type} {entries : Dictionary α}

theorem mem_insert {key : String} {value : α} {entry : String × α}
    (inside : entry ∈ entries.insert key value) : entry = (key, value) ∨ entry ∈ entries := by
  induction entries with
  | nil => exact .inl (List.mem_singleton.mp inside)
  | cons first rest ih =>
      obtain ⟨other, kept⟩ := first
      unfold insert at inside
      split at inside
      · exact List.mem_cons.mp inside
      · split at inside
        · exact (List.mem_cons.mp inside).imp_right (List.mem_cons_of_mem _)
        · rcases List.mem_cons.mp inside with rfl | inside
          · exact .inr List.mem_cons_self
          · exact (ih inside).imp_right (List.mem_cons_of_mem _)

theorem sorted_insert (sorted : entries.Sorted) (key : String) (value : α) :
    (entries.insert key value).Sorted := by
  induction entries with
  | nil => exact List.pairwise_singleton _ _
  | cons first rest ih =>
      obtain ⟨other, kept⟩ := first
      obtain ⟨below, ordered⟩ := List.pairwise_cons.mp sorted
      unfold insert
      split
      · next before =>
          refine List.pairwise_cons.mpr ⟨?_, sorted⟩
          intro entry inside
          rcases List.mem_cons.mp inside with rfl | inside
          · exact before
          · exact lt_trans before (below entry inside)
      · next after =>
          split
          · next same =>
              subst same
              exact List.pairwise_cons.mpr ⟨below, ordered⟩
          · next distinct =>
              refine List.pairwise_cons.mpr ⟨?_, ih ordered⟩
              intro entry inside
              rcases mem_insert inside with rfl | inside
              · exact lt_of_le_of_ne (not_lt.mp after) (Ne.symm distinct)
              · exact below entry inside

end Dictionary

theorem Generate.sorted_topLevel {macros macros' : Dictionary MacroCode} {nodes : List Node}
    {code : List Op} (sorted : macros.Sorted)
    (generated : topLevel macros nodes = .ok (code, macros')) : macros'.Sorted := by
  induction nodes generalizing macros code with
  | nil =>
      cases generated
      exact sorted
  | cons first rest ih =>
      obtain ⟨_, _, _, _, _, _, _, further⟩ | ⟨_, _, _, _, further, _⟩ := topLevel_cons generated
      · exact ih (Dictionary.sorted_insert sorted _ _) further
      · exact ih sorted further

/-- Compiled code has its macros sorted by their names. -/
theorem sorted_of_compileSource {dialect : Token.Dialect} {optimize : Bool} {now : Time}
    {name source : String} {code : Code}
    (compiled : compileSource dialect optimize now name source = .ok code) :
    Dictionary.Sorted code.macros := by
  have plain {code : Code} (compiled : compileSource dialect false now name source = .ok code) :
      Dictionary.Sorted code.macros := by
    simp only [compileSource, bind_eq_ok, mapError_eq_ok] at compiled
    obtain ⟨template, _, _, made, ⟨⟩⟩ := compiled
    obtain ⟨ops, macros, generated, rfl, _⟩ := compile_eq_ok made
    exact Generate.sorted_topLevel .nil generated
  cases optimize with
  | false => exact plain compiled
  | true =>
      obtain ⟨before, made, rfl⟩ := exists_of_compileSource_optimize compiled
      exact List.pairwise_map.mpr (plain made)

end Stencil

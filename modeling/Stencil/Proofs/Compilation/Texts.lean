import Mathlib
import Stencil.Proofs.Compilation.Calls
import Stencil.Proofs.Compilation.Templates

/-!
# Texts

Texts that are compiled as they are found: each has a tree with its code, or fails alike whether it
is rendered or run, and whether its prints are fused or not.
-/

namespace Stencil

/-! ## Checks of fused code -/

namespace Fused

variable {code code' : List Op}

theorem getLast?_eq_halt (fused : Fused code code') :
    code'.getLast? = some .halt ↔ code.getLast? = some .halt := by
  have ends (op op' : Op) (same : op' = .halt ↔ op = .halt) :
      code'.getLast?.getD op' = .halt ↔ code.getLast?.getD op = .halt := by
    induction fused generalizing op op' with
    | nil => exact same
    | keep first _ ih =>
        rw [List.getLast?_cons, List.getLast?_cons]
        exact ih first first Iff.rfl
    | fuse text _ ih =>
        simp only [List.getLast?_cons, Option.getD_some]
        exact ih .printRaw .noop (by simp)
  have last (ops : List Op) : ops.getLast? = some .halt ↔ ops.getLast?.getD .noop = .halt := by
    cases ops.getLast? <;> simp
  rw [last, last]
  exact ends .noop .noop Iff.rfl

theorem checkJumps_eq (fused : Fused code code') (stream : String) (size ip : Nat) :
    checkJumps stream size ip code' = checkJumps stream size ip code := by
  induction fused generalizing ip with
  | nil => rfl
  | keep op _ ih => simp only [checkJumps, ih]
  | fuse text _ ih => exact ih (ip + 1 + 1)

theorem checkStream_eq (fused : Fused code code') (stream : String) :
    checkStream stream code' = checkStream stream code := by
  simp only [checkStream, fused.getLast?_eq_halt, fused.checkJumps_eq, fused.length_eq]

end Fused

/-- Streams of the same names, of which the second ones have some prints fused. -/
abbrev FusedStreams : List (String × List Op) → List (String × List Op) → Prop :=
  List.Forall₂ fun first second => second.1 = first.1 ∧ Fused first.2 second.2

theorem FusedStreams.checkStreams_eq {streams streams' : List (String × List Op)}
    (fused : FusedStreams streams streams') : checkStreams streams' = checkStreams streams := by
  induction fused with
  | nil => rfl
  | @cons first second _ _ alike _ ih =>
      obtain ⟨stream, ops⟩ := first
      obtain ⟨_, ops'⟩ := second
      obtain ⟨rfl, fused⟩ := alike
      simp only [checkStreams, fused.checkStream_eq, ih]

theorem Code.fusedStreams {change : List Op → List Op} (changes : ∀ ops, Fused ops (change ops))
    (code : Code) : FusedStreams code.streams (code.mapStreams change).streams := by
  refine .cons ⟨rfl, changes code.ops⟩ ?_
  unfold mapStreams
  dsimp only
  induction code.macros with
  | nil => exact .nil
  | cons entry rest ih => exact .cons ⟨rfl, changes entry.2.ops⟩ ih

/-- Fusing prints leads to no other errors. -/
theorem Code.check_mapStreams {change : List Op → List Op} (changes : ∀ ops, Fused ops (change ops))
    (code : Code) : (code.mapStreams change).check = code.check :=
  (code.fusedStreams changes).checkStreams_eq

/-- A text that is compiled with its prints fused has the errors and the code that it has without,
but for the prints. -/
theorem compileSource_optimize (dialect : Token.Dialect) (now : Time) (name source : String) :
    compileSource dialect true now name source =
      (compileSource dialect false now name source).map Code.optimize := by
  unfold compileSource
  cases parsed : Template.parse dialect name source with
  | error problem => rfl
  | ok template =>
      cases made : template.compile now with
      | error problem =>
          simp only [mapError_ok, mapError_error, bind, Except.bind, made, Except.map]
      | ok code =>
          obtain ⟨_, _, _, _, sound⟩ := compile_eq_ok made
          have sound' : code.optimize.check = .ok () := by
            rw [Code.optimize, Code.check_mapStreams fused_fuse, sound]
          simp only [mapError_ok, bind, Except.bind, made, sound']
          rfl

/-- Code that is compiled passes the check. -/
theorem check_of_compileSource {dialect : Token.Dialect} {optimize : Bool} {now : Time}
    {name source : String} {code : Code}
    (compiled : compileSource dialect optimize now name source = .ok code) :
    code.check = .ok () := by
  have plain {code : Code} (compiled : compileSource dialect false now name source = .ok code) :
      code.check = .ok () := by
    simp only [compileSource, bind_eq_ok, mapError_eq_ok] at compiled
    obtain ⟨template, _, _, made, ⟨⟩⟩ := compiled
    obtain ⟨_, _, _, _, sound⟩ := compile_eq_ok made
    exact sound
  cases optimize with
  | false => exact plain compiled
  | true =>
      rw [compileSource_optimize] at compiled
      cases found : compileSource dialect false now name source with
      | error problem =>
          rw [found] at compiled
          cases compiled
      | ok code =>
          rw [found] at compiled
          cases compiled
          rw [Code.optimize, Code.check_mapStreams fused_fuse]
          exact plain found

namespace Machine.Text

def compile (text : Text) (optimize : Bool) (name : String) : Except Failure Code :=
  compileSource text.dialect optimize text.now name text.content

theorem compile_optimize (text : Text) (name : String) :
    text.compile true name = (text.compile false name).map Code.optimize :=
  compileSource_optimize text.dialect text.now name text.content

/-- A text that is compiled has a tree. -/
theorem parses_of_compile {text : Text} {optimize : Bool} {name : String} {code : Code}
    (compiled : text.compile optimize name = .ok code) : ∃ template, text.Parses name template := by
  simp only [compile, compileSource, bind_eq_ok, mapError_eq_ok] at compiled
  obtain ⟨template, parses, _⟩ := compiled
  exact ⟨template, parses⟩

theorem Parses.compiled {text : Text} {name : String} {template : Template} {code : Code}
    (parses : text.Parses name template) (made : text.compile false name = .ok code) :
    Compiled template code := by
  have parsed : Template.parse text.dialect name text.content = .ok template := parses
  simp only [compile, compileSource, parsed, bind_eq_ok, mapError_eq_ok] at made
  obtain ⟨_, ⟨⟩, _, made, ⟨⟩⟩ := made
  exact ⟨⟨text, name, parses⟩, text.now, made⟩

end Machine.Text

open Machine (Text)

/-- A tree and code that come from one text, in one of some dialects, with its prints fused or
not. -/
def FromText (dialects : Token.Dialect → Prop) (template : Template) (code : Code) : Prop :=
  ∃ (text : Text) (optimize : Bool) (name : String), dialects text.dialect ∧
    text.Parses name template ∧ text.compile optimize name = .ok code

theorem fromText_of_compile {dialects : Token.Dialect → Prop} {text : Text} {optimize : Bool}
    {name : String} {code : Code} (allowed : dialects text.dialect)
    (compiled : text.compile optimize name = .ok code) :
    ∃ template, FromText dialects template code := by
  obtain ⟨template, parses⟩ := Text.parses_of_compile compiled
  exact ⟨template, text, optimize, name, allowed, parses, compiled⟩

/-- Code that comes from a text belongs to the tree of the text. -/
theorem FromText.built {dialects : Token.Dialect → Prop} {template : Template} {code : Code}
    (stems : FromText dialects template code) : Built template code := by
  obtain ⟨text, optimize, name, _, parses, made⟩ := stems
  cases optimize with
  | false => exact (parses.compiled made).built
  | true =>
      rw [text.compile_optimize] at made
      cases found : text.compile false name with
      | error problem =>
          rw [found] at made
          cases made
      | ok code =>
          rw [found] at made
          cases made
          exact (parses.compiled found).built_optimize

/-! ## Texts that are found -/

namespace Machine

open Meaning (Trees)

variable {σ : Type}

/-- Finds the text of a template by its name. -/
abbrev Texts (σ : Type) := String → σ → Except Failure Text × σ

namespace Text

/-- The tree of a text that can be compiled. -/
def tree (text : Text) (name : String) : Except Failure Template := do
  let template ← (Template.parse text.dialect name text.content).mapError .ofParse
  let _ ← text.compile false name
  return template

/-- A text either has a tree and the code of that, or there is the same failure. -/
theorem tree_compile (text : Text) (name : String) :
    (∃ failure, text.tree name = .error failure ∧ text.compile false name = .error failure) ∨
      ∃ template code, text.tree name = .ok template ∧ text.compile false name = .ok code ∧
        Compiled template code := by
  unfold tree compile compileSource
  cases parsed : Template.parse text.dialect name text.content with
  | error problem => exact .inl ⟨_, rfl, rfl⟩
  | ok template =>
      cases made : template.compile text.now with
      | error problem =>
          refine .inl ⟨.compile problem, ?_, ?_⟩ <;>
            simp only [mapError_ok, mapError_error, bind, Except.bind, made]
      | ok code =>
          refine .inr ⟨template, code, ?_, ?_, ⟨text, name, parsed⟩, _, made⟩
          · simp only [mapError_ok, bind, Except.bind, made]
            rfl
          · simp only [mapError_ok, bind, Except.bind, made]
            rfl

theorem tree_compile_optimize (text : Text) (name : String) :
    (∃ failure, text.tree name = .error failure ∧ text.compile true name = .error failure) ∨
      ∃ template code, text.tree name = .ok template ∧ text.compile true name = .ok code ∧
        Built template code := by
  rw [text.compile_optimize]
  obtain ⟨failure, failed, failed'⟩ | ⟨template, code, found, made, compiled⟩ :=
    text.tree_compile name
  · exact .inl ⟨failure, failed, by rw [failed']; rfl⟩
  · exact .inr ⟨template, code.optimize, found, by rw [made]; rfl, compiled.built_optimize⟩

end Text

/-- Finds the trees of texts that can be compiled. -/
def treesOf (texts : Texts σ) : Trees σ := fun name store =>
  match texts name store with
  | (.error failure, after) => (.error failure, after)
  | (.ok text, after) => (text.tree name, after)

/-- Compiles the texts that are found. -/
def loaderOf (optimize : Bool) (texts : Texts σ) : Loader σ := fun name store =>
  match texts name store with
  | (.error failure, after) => (.error failure, after)
  | (.ok text, after) => (text.compile optimize name, after)

/-- Texts are found alike by their trees and by their code, if that holds of each one. -/
theorem loads_of_trees {pairs : Template → Code → Prop} {optimize : Bool} (texts : Texts σ)
    (alike : ∀ (text : Text) name,
      (∃ failure, text.tree name = .error failure ∧ text.compile optimize name = .error failure) ∨
        ∃ template code, text.tree name = .ok template ∧ text.compile optimize name = .ok code ∧
          pairs template code) :
    Loads pairs Eq (some (treesOf texts)) (some (loaderOf optimize texts)) := by
  rintro name store _ rfl
  unfold treesOf loaderOf
  rcases texts name store with ⟨failure | text, after⟩
  · exact ⟨rfl, rfl⟩
  · dsimp only
    obtain ⟨failure, failed, failed'⟩ | ⟨template, code, found, made, paired⟩ := alike text name
    · rw [failed, failed']
      exact ⟨rfl, rfl⟩
    · rw [found, made]
      exact ⟨paired, rfl⟩

theorem loads_of_texts (texts : Texts σ) :
    Loads Compiled Eq (some (treesOf texts)) (some (loaderOf false texts)) :=
  loads_of_trees texts Text.tree_compile

/-- Texts that are found have the same trees whether prints are fused or not. -/
theorem loads_of_texts_optimize (texts : Texts σ) :
    Loads Built Eq (some (treesOf texts)) (some (loaderOf true texts)) :=
  loads_of_trees texts Text.tree_compile_optimize

/-! ## Loaders that compile -/

/-- A loader whose codes are paired with trees, as long as its store is of a kind that it keeps. -/
structure Paired (pairs : Template → Code → Prop) (holds : σ → Prop) (load : Loader σ) : Prop where
  kept : ∀ name store, holds store → holds (load name store).2
  found : ∀ name store code, holds store → (load name store).1 = .ok code →
    ∃ template, pairs template code

open Classical in
/-- The trees that the codes of a loader are paired with. -/
noncomputable def treesPaired (pairs : Template → Code → Prop) (load : Loader σ) : Trees σ :=
  fun name store =>
    match load name store with
    | (.error failure, after) => (.error failure, after)
    | (.ok code, after) =>
        (.ok (if found : ∃ template, pairs template code then found.choose else ⟨"", []⟩), after)

/-- What holds of all trees in pairs, and of the empty tree, holds of those that are found. -/
theorem of_treesPaired {pairs : Template → Code → Prop} {load : Loader σ}
    {fine : Template → Prop} (each : ∀ template code, pairs template code → fine template)
    (empty : fine ⟨"", []⟩) {name : String} {store after : σ} {template : Template}
    (found : treesPaired pairs load name store = (.ok template, after)) : fine template := by
  unfold treesPaired at found
  split at found
  · cases found
  · next code kept loaded =>
      cases found
      split
      · next paired => exact each _ code paired.choose_spec
      · exact empty

theorem loads_of_paired {pairs : Template → Code → Prop} {holds : σ → Prop}
    {loader : Option (Loader σ)} (paired : ∀ load ∈ loader, Paired pairs holds load) :
    Loads pairs (fun store store' => store = store' ∧ holds store)
      (loader.map (treesPaired pairs)) loader := by
  cases loader with
  | none => trivial
  | some load =>
      obtain ⟨kept, found⟩ := paired load rfl
      rintro name store _ ⟨rfl, held⟩
      have after := kept name store held
      have made := found name store
      unfold treesPaired
      revert after made
      rcases load name store with ⟨failure | code, after⟩
      · exact fun held _ => ⟨rfl, rfl, held⟩
      · intro keeps made
        have found := made code held rfl
        dsimp only
        rw [dif_pos found]
        exact ⟨found.choose_spec, rfl, keeps⟩

theorem paired_of_texts {pairs : Template → Code → Prop} (optimize : Bool) (texts : Texts σ)
    (each : ∀ name store text after code, texts name store = (.ok text, after) →
      text.compile optimize name = .ok code → ∃ template, pairs template code) :
    Paired pairs (fun _ => True) (loaderOf optimize texts) := by
  refine ⟨fun _ _ _ => trivial, ?_⟩
  intro name store code _ made
  unfold loaderOf at made
  cases found : texts name store with
  | mk outcome after =>
      rw [found] at made
      cases outcome with
      | error failure => cases made
      | ok text => exact each name store text after code found made

/-- A loader whose codes come from texts, as long as its store is of a kind that it keeps. -/
structure Compiling (dialects : Token.Dialect → Prop) (holds : σ → Prop) (load : Loader σ) :
    Prop where
  kept : ∀ name store, holds store → holds (load name store).2
  compiled : ∀ name store code, holds store → (load name store).1 = .ok code →
    ∃ template, FromText dialects template code

theorem compiling_of_texts {dialects : Token.Dialect → Prop} (optimize : Bool) (texts : Texts σ)
    (allowed : ∀ name store text after, texts name store = (.ok text, after) →
      dialects text.dialect) :
    Compiling dialects (fun _ => True) (loaderOf optimize texts) := by
  have paired : Paired (FromText dialects) (fun _ => True) (loaderOf optimize texts) :=
    paired_of_texts optimize texts fun name store text after _ found made =>
      fromText_of_compile (allowed name store text after found) made
  exact ⟨paired.kept, paired.found⟩

open Classical in
/-- The trees of the texts from which a loader has its codes. -/
noncomputable def treesBehind (dialects : Token.Dialect → Prop) (load : Loader σ) : Trees σ :=
  fun name store =>
    match load name store with
    | (.error failure, after) => (.error failure, after)
    | (.ok code, after) =>
        (.ok (if found : ∃ template, FromText dialects template code then found.choose
          else ⟨"", []⟩), after)

theorem treesBehind_eq (dialects : Token.Dialect → Prop) :
    treesBehind dialects = treesPaired (σ := σ) (FromText dialects) :=
  rfl

theorem loads_of_compiling {dialects : Token.Dialect → Prop} {holds : σ → Prop}
    {loader : Option (Loader σ)} (compiling : ∀ load ∈ loader, Compiling dialects holds load) :
    Loads Built (fun store store' => store = store' ∧ holds store)
      (loader.map (treesBehind dialects)) loader := by
  have paired : ∀ load ∈ loader, Paired (FromText dialects) holds load :=
    fun load found => ⟨(compiling load found).kept, (compiling load found).compiled⟩
  rw [treesBehind_eq]
  exact (loads_of_paired paired).mono fun _ _ => FromText.built

end Machine

end Stencil

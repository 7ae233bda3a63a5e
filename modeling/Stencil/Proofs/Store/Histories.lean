import Mathlib.Data.Set.Basic
import Stencil.Proofs.Store.Loading

/-!
# Histories of stores

While templates are loaded from a store, its sources change and code is dropped from its cache.
Whether code is out of date is judged by two moments only, so it is found out as long as a source
that changes is later than all code that was loaded before.
-/

namespace Stencil

/-- What is found under a name is what the name was served as; it is found if the cache can hand it
back. -/
structure Store.Recalls (store : Store) (name : String) (served : Option Code) : Prop where
  only : ∀ code, store.found? name = some code → served = some code
  whole : ∀ code, served = some code → store.cache.inMemory = true ∨ code.Fits →
    store.found? name = some code

namespace Store.Recalls

variable {store after : Store} {name : String} {served : Option Code}

theorem nothing (absent : store.found? name = none) : store.Recalls name none where
  only := fun _ found => nomatch absent.symm.trans found
  whole := nofun

theorem succeeds (recalls : store.Recalls name served) (succeeds : store.Succeeds after)
    (same : after.found? name = store.found? name) : after.Recalls name served where
  only := by
    rw [same]
    exact recalls.only
  whole := by
    rw [same, succeeds.inMemory]
    exact recalls.whole

theorem load {policy : Policy} (recalls : store.Recalls name served)
    (strategy : policy.strategy = .noVerify) :
    (policy.load name store).2.Recalls name ((policy.load name store).1.toOption.or served) := by
  obtain ⟨succeeds, loads⟩ := policy.loads_load name store
  have used : policy.strategy ≠ .never := fun never => nomatch strategy.symm.trans never
  cases loaded : (policy.load name store).1 with
  | error failure =>
      rw [loaded] at loads
      exact recalls.succeeds succeeds (congrFun (loads.found?_of_error strategy) name)
  | ok code =>
      rw [loaded] at loads
      constructor
      · intro found present
        exact congrArg some (loads.eq_of_found? used present).symm
      · intro served present
        cases present
        rw [succeeds.inMemory]
        exact loads.found?_self used

end Store.Recalls

/-- A store and its past. -/
structure Ledger where
  store : Store
  /-- The names that had a source at some time. -/
  known : Set String
  /-- The code that was loaded, the latest first. -/
  given : List Code
  /-- What a name was loaded as last, unless that was dropped since. -/
  served : String → Option Code

namespace Ledger

def start (store : Store) : Ledger where
  store := store
  known := { name | ∃ source, store.sources.fetch name = .ok source }
  given := []
  served := fun _ => none

def change (ledger : Ledger) (sources : Sources) : Ledger :=
  { ledger with
    store := { ledger.store with sources }
    known := ledger.known ∪ { name | ∃ source, sources.fetch name = .ok source } }

def load (ledger : Ledger) (policy : Policy) (name : String) : Ledger :=
  let (result, store) := policy.load name ledger.store
  { ledger with
    store
    given := result.toOption.toList ++ ledger.given
    served := Function.update ledger.served name (result.toOption.or (ledger.served name)) }

def invalidate (ledger : Ledger) (name : String) : Ledger :=
  { ledger with
    store := ledger.store.delete name
    served := Function.update ledger.served name none }

/-- A source that is there after a change was there before, is the first under its name, or is
later than all code that was loaded. -/
def Announces (ledger : Ledger) (sources : Sources) : Prop :=
  ∀ name source, sources.fetch name = .ok source →
    ledger.store.sources.fetch name = .ok source ∨ name ∉ ledger.known ∨
      ∀ code ∈ ledger.given, source.modified.isAfter code.generatedAt = true

/-- What the cache has of the past, and what it is good for. -/
structure Keeps (policy : Policy) (ledger : Ledger) : Prop where
  takes : policy.Takes ledger.store
  known : ∀ name source, ledger.store.sources.fetch name = .ok source → name ∈ ledger.known
  present : ∀ name code, ledger.store.found? name = some code →
    name ∈ ledger.known ∧ code ∈ ledger.given
  sound : policy.strategy ≠ .noVerify → ∀ name code, ledger.store.found? name = some code →
    policy.Sound ledger.store.sources name code
  recalls : policy.strategy = .noVerify → ∀ name, ledger.store.Recalls name (ledger.served name)

namespace Keeps

variable {policy : Policy} {ledger : Ledger}

theorem start {store : Store} (takes : policy.Takes store)
    (empty : ∀ name, store.found? name = none) : (start store).Keeps policy where
  takes := takes
  known := fun _ source fetched => ⟨source, fetched⟩
  present := fun name _ found => nomatch (empty name).symm.trans found
  sound := fun _ name _ found => nomatch (empty name).symm.trans found
  recalls := fun _ name => .nothing (empty name)

theorem create {sources : Sources} {cache : Cache} (vacant : policy.Vacant cache) :
    (Ledger.start (.create sources cache)).Keeps policy :=
  .start (vacant.takes sources) fun _ => vacant.found? sources

theorem change {sources : Sources} (keeps : ledger.Keeps policy)
    (announces : ledger.Announces sources) : (ledger.change sources).Keeps policy where
  takes := keeps.takes
  known := fun _ source fetched => .inr ⟨source, fetched⟩
  present := fun name code found => (keeps.present name code found).imp_left .inl
  sound := by
    intro used name code found
    obtain ⟨known, given⟩ := keeps.present name code found
    refine (keeps.sound used name code found).change used fun source fetched => ?_
    rcases announces name source fetched with before | new | later
    · exact .inl before
    · exact absurd known new
    · exact .inr (later code given)
  recalls := fun strategy name => ⟨(keeps.recalls strategy name).only,
    (keeps.recalls strategy name).whole⟩

theorem invalidate (keeps : ledger.Keeps policy) (name : String) :
    (ledger.invalidate name).Keeps policy := by
  have succeeds := Store.succeeds_delete ledger.store name
  exact {
    takes := keeps.takes.succeeds succeeds
    known := keeps.known
    present := fun other code found => keeps.present other code (Store.of_found?_delete found)
    sound := fun used other code found =>
      keeps.sound used other code (Store.of_found?_delete found)
    recalls := by
      intro strategy other
      show (ledger.store.delete name).Recalls other (Function.update ledger.served name none other)
      by_cases same : other = name
      · subst same
        rw [Function.update_self]
        exact .nothing (by rw [Store.found?_delete, Function.update_self])
      · rw [Function.update_of_ne same]
        refine (keeps.recalls strategy other).succeeds succeeds ?_
        rw [Store.found?_delete, Function.update_of_ne same] }

theorem load (keeps : ledger.Keeps policy) (name : String) :
    (ledger.load policy name).Keeps policy := by
  obtain ⟨succeeds, loads⟩ := policy.loads_load name ledger.store
  exact {
    takes := keeps.takes.succeeds succeeds
    known := by
      show ∀ other source, (policy.load name ledger.store).2.sources.fetch other = .ok source →
        other ∈ ledger.known
      rw [succeeds.sources]
      exact keeps.known
    present := by
      intro other code found
      rcases loads.found?_cases found with before | ⟨rfl, loaded, compiled⟩
      · exact (keeps.present other code before).imp_right (List.mem_append_right _)
      · obtain ⟨source, fetched, _⟩ := Policy.fresh_eq_ok compiled
        refine ⟨keeps.known other source fetched, List.mem_append_left _ ?_⟩
        show code ∈ (policy.load other ledger.store).1.toOption.toList
        rw [loaded]
        exact List.mem_singleton_self code
    sound := by
      intro used other code found
      show policy.Sound (policy.load name ledger.store).2.sources other code
      rw [succeeds.sources]
      rcases loads.found?_cases found with before | ⟨rfl, _, compiled⟩
      · exact keeps.sound used other code before
      · exact fun _ => compiled
    recalls := by
      intro strategy other
      show (policy.load name ledger.store).2.Recalls other (Function.update ledger.served name
        ((policy.load name ledger.store).1.toOption.or (ledger.served name)) other)
      by_cases same : other = name
      · subst same
        rw [Function.update_self]
        exact (keeps.recalls strategy other).load strategy
      · rw [Function.update_of_ne same]
        exact (keeps.recalls strategy other).succeeds succeeds (loads.found?_of_ne same) }

end Keeps

/-- The ledgers to which loads, drops and allowed changes of the sources lead. -/
inductive Leads (policy : Policy) (allows : Ledger → Sources → Prop) (first : Ledger) :
    Ledger → Prop where
  | start : Leads policy allows first first
  | change {ledger : Ledger} {sources : Sources} (past : Leads policy allows first ledger)
      (allowed : allows ledger sources) : Leads policy allows first (ledger.change sources)
  | load {ledger : Ledger} (past : Leads policy allows first ledger) (name : String) :
      Leads policy allows first (ledger.load policy name)
  | invalidate {ledger : Ledger} (past : Leads policy allows first ledger) (name : String) :
      Leads policy allows first (ledger.invalidate name)

variable {policy : Policy} {allows : Ledger → Sources → Prop} {first ledger : Ledger}

theorem Leads.keeps (leads : Leads policy allows first ledger) (keeps : first.Keeps policy)
    (announces : ∀ ledger sources, allows ledger sources → ledger.Announces sources) :
    ledger.Keeps policy := by
  induction leads with
  | start => exact keeps
  | change past allowed before => exact before.change (announces _ _ allowed)
  | load past name before => exact before.load name
  | invalidate past name before => exact before.invalidate name

theorem Leads.inMemory (leads : Leads policy allows first ledger) :
    ledger.store.cache.inMemory = first.store.cache.inMemory := by
  induction leads with
  | start => rfl
  | change past allowed before => exact before
  | @load ledger past name before =>
      exact (policy.loads_load name ledger.store).1.inMemory.trans before
  | @invalidate ledger past name before =>
      exact (Store.succeeds_delete ledger.store name).inMemory.trans before

/-! ## Templates in memory -/

/-- A template in memory is put, or removed. A put that replaces a template or brings it back is
later than all code that was loaded before. -/
inductive Edits (ledger : Ledger) : Sources → Prop where
  | put {templates : Dictionary Source} (current : ledger.store.sources = .memory templates)
      (name : String) (source : Source)
      (later : name ∈ ledger.known →
        ∀ code ∈ ledger.given, source.modified.isAfter code.generatedAt = true) :
      Edits ledger (.memory (templates.insert name source))
  | remove {templates : Dictionary Source} (current : ledger.store.sources = .memory templates)
      (name : String) : Edits ledger (.memory (templates.erase name))

theorem fetch_memory_eq_ok {templates : Dictionary Source} {name : String} {source : Source} :
    (Sources.memory templates).fetch name = .ok source ↔ templates.find? name = some source := by
  unfold Sources.fetch Sources.inMemory
  dsimp only
  split
  · next found => rw [found, Except.ok.injEq, Option.some.injEq]
  · next absent => rw [absent]; exact ⟨nofun, nofun⟩

theorem Edits.announces {sources : Sources} (edits : Edits ledger sources) :
    ledger.Announces sources := by
  intro other source fetched
  cases edits with
  | put current name new later =>
      rw [current]
      rw [fetch_memory_eq_ok] at fetched ⊢
      by_cases same : other = name
      · subst same
        rw [Dictionary.find?_insert_self] at fetched
        cases fetched
        exact .inr (Classical.or_iff_not_imp_left.mpr fun known => later (not_not.mp known))
      · rw [Dictionary.find?_insert_of_ne _ _ same] at fetched
        exact .inl fetched
  | remove current name =>
      rw [current]
      rw [fetch_memory_eq_ok] at fetched ⊢
      by_cases same : other = name
      · subst same
        rw [Dictionary.find?_erase_self] at fetched
        cases fetched
      · rw [Dictionary.find?_erase_of_ne _ same] at fetched
        exact .inl fetched

theorem Leads.exists_templates (leads : Leads policy Edits first ledger)
    (memory : ∃ templates, first.store.sources = .memory templates) :
    ∃ templates, ledger.store.sources = .memory templates := by
  induction leads with
  | start => exact memory
  | change past edits before =>
      cases edits with
      | put current name source later => exact ⟨_, rfl⟩
      | remove current name => exact ⟨_, rfl⟩
  | @load ledger past name before =>
      obtain ⟨templates, current⟩ := before
      exact ⟨templates, (policy.loads_load name ledger.store).1.sources.trans current⟩
  | invalidate past name before => exact before

/-- What a load leads to that knows no cache, from what is stored for the template. -/
def anew (policy : Policy) (name : String) : Option Source → Except Failure Code
  | some source => compileSource policy.dialect policy.optimize ⟨0⟩ name source.content
  | none => .error (.load (.notFound name))

theorem fresh_memory (policy : Policy) (templates : Dictionary Source) (name : String) :
    policy.fresh (.memory templates) name = anew policy name (templates.find? name) := by
  unfold Policy.fresh Sources.fetch Sources.inMemory
  cases found : templates.find? name with
  | none => dsimp only; rw [found]; rfl
  | some source => dsimp only; rw [found]; rfl

/-- After any past, and however the clock goes, a load follows the strategy. Code that is used
whenever there is some is what the name was loaded as before, as long as the cache can hand it back;
any other load leads to what is stored at that moment. A load that fails puts nothing into the
cache. -/
theorem load_follows_strategy {templates : Dictionary Source} {cache : Cache}
    (vacant : policy.Vacant cache)
    (past : Leads policy Edits (start (.create (.memory templates) cache)) ledger) (name : String) :
    ∃ stored, ledger.store.sources = .memory stored ∧
      (policy.strategy ≠ .noVerify →
        (policy.load name ledger.store).1.map Code.undated = anew policy name (stored.find? name)) ∧
      (policy.strategy = .noVerify →
        match ledger.served name with
        | none => (policy.load name ledger.store).1.map Code.undated =
            anew policy name (stored.find? name)
        | some code => cache.inMemory = true ∨ code.Fits →
            (policy.load name ledger.store).1 = .ok code) ∧
      ∀ failure, (policy.load name ledger.store).1 = .error failure → ∀ other code,
        ((policy.load name ledger.store).2.cache.get other).1 = some code →
        (ledger.store.cache.get other).1 = some code := by
  have keeps := past.keeps (.create vacant) fun _ _ => Edits.announces
  obtain ⟨stored, current⟩ := past.exists_templates ⟨templates, rfl⟩
  obtain ⟨_, loads⟩ := policy.loads_load name ledger.store
  refine ⟨stored, current, ?_⟩
  rw [← fresh_memory, ← current]
  refine ⟨?_, ?_, ?_⟩
  · intro used
    exact loads.map_undated keeps.takes (keeps.sound used name)
  · intro strategy
    have recalls := keeps.recalls strategy name
    cases served : ledger.served name with
    | none =>
        refine loads.map_undated keeps.takes fun code found => ?_
        cases served.symm.trans (recalls.only code found)
    | some code =>
        intro fits
        have kind : ledger.store.cache.inMemory = cache.inMemory := past.inMemory
        rw [← kind] at fits
        exact loads.eq_ok strategy (recalls.whole code served fits)
  · intro failure failed other code found
    rw [failed] at loads
    exact (loads.found?_cases found).resolve_right nofun

def reader : Policy :=
  ⟨.verify, .standard, true, fun _ => ⟨10⟩⟩

def onePage : Dictionary Source :=
  [("page", ⟨"one", ⟨0⟩⟩)]

/-- The page is loaded and removed. -/
def removed : Ledger :=
  ((start (.create (.memory onePage) (.memory []))).load reader "page").change
    (.memory (onePage.erase "page"))

/-- After it was looked for in vain, another page takes the place of the one that was removed. -/
def replaced : Ledger :=
  (removed.load reader "page").change
    (.memory (Dictionary.insert "page" ⟨"two", ⟨20⟩⟩ (onePage.erase "page")))

theorem replaced_load_follows_strategy :
    Leads reader Edits (start (.create (.memory onePage) (.memory []))) replaced ∧
      (reader.load "page" replaced.store).1.map Code.undated =
        compileSource .standard true ⟨0⟩ "page" "two" := by
  have past : Leads reader Edits (start (.create (.memory onePage) (.memory []))) replaced := by
    have before := (reader.loads_load "page" (.create (.memory onePage) (.memory []))).1.sources
    have between := (reader.loads_load "page" removed.store).1.sources
    refine .change (.load (.change (.load .start "page") ?_) "page") ?_
    · exact .remove before "page"
    · refine .put between "page" ⟨"two", ⟨20⟩⟩ fun _ => ?_
      decide +kernel
  obtain ⟨stored, current, checked, _⟩ := load_follows_strategy (.inl rfl) past "page"
  cases current
  rw [Dictionary.find?_insert_self] at checked
  exact ⟨past, checked nofun⟩

end Ledger

end Stencil

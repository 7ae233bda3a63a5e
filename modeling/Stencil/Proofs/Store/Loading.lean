import Mathlib.Logic.Function.Basic
import Stencil.Proofs.Compilation.Undated
import Stencil.Proofs.Store.Caches
import Stencil.Store.Load

/-!
# What loading a template does

A template that is loaded has its code from the cache, if that may be used, else the source is
compiled. The cache changes in one place only, and only by code that was compiled just now.
-/

namespace Stencil

/-! ## Stores -/

namespace Store

variable {store after : Store} {name : String} {code : Code}

/-- The code that the cache of a store has under a name. -/
def found? (store : Store) (name : String) : Option Code :=
  store.cache.found? name

/-- A store with the sources of another, and a cache of the same kind. -/
structure Succeeds (store after : Store) : Prop where
  sources : after.sources = store.sources
  inMemory : after.cache.inMemory = store.cache.inMemory

theorem Succeeds.refl (store : Store) : store.Succeeds store :=
  ⟨rfl, rfl⟩

theorem Succeeds.trans {last : Store} (first : store.Succeeds after)
    (second : after.Succeeds last) : store.Succeeds last :=
  ⟨second.sources.trans first.sources, second.inMemory.trans first.inMemory⟩

theorem succeeds_get (store : Store) (name : String) : store.Succeeds (store.get name).2 :=
  ⟨rfl, Cache.inMemory_get store.cache name⟩

theorem found?_get (store : Store) (name : String) : (store.get name).2.found? = store.found? :=
  funext (Cache.found?_get store.cache name)

theorem succeeds_delete (store : Store) (name : String) : store.Succeeds (store.delete name) :=
  ⟨rfl, Cache.inMemory_delete store.cache name⟩

theorem found?_delete (store : Store) (name : String) :
    (store.delete name).found? = Function.update store.found? name none := by
  funext other
  by_cases same : other = name
  · subst same
    rw [Function.update_self]
    exact Cache.found?_delete_self store.cache other
  · rw [Function.update_of_ne same]
    exact Cache.found?_delete_of_ne store.cache same

theorem of_found?_delete {other : String} (found : (store.delete name).found? other = some code) :
    store.found? other = some code := by
  rw [found?_delete] at found
  by_cases same : other = name
  · subst same
    rw [Function.update_self] at found
    cases found
  · rwa [Function.update_of_ne same] at found

/-- Code that is put into the cache is found there, or nothing is. -/
theorem set_cases (store : Store) (name : String) (sorted : Dictionary.Sorted code.macros) :
    (∃ after kept, store.set name code = (.ok (), after) ∧ store.Succeeds after ∧
      after.found? = Function.update store.found? name kept ∧ (∀ found ∈ kept, found = code) ∧
      (store.cache.inMemory = true ∨ code.Fits → kept = some code)) ∨
    ∃ error after, store.set name code = (.error error, after) ∧ store.Succeeds after ∧
      after.found? = store.found? ∧
      ¬(store.cache.inMemory = true ∨ 0 ≤ code.generatedAt.nanoseconds) := by
  unfold set
  cases done : store.cache.set name code with
  | ok cache =>
      refine .inl ⟨_, cache.found? name, rfl, ⟨rfl, Cache.inMemory_set done⟩, ?_, ?_, ?_⟩
      · funext other
        by_cases same : other = name
        · subst same
          rw [Function.update_self]
          rfl
        · rw [Function.update_of_ne same]
          exact Cache.found?_set_of_ne done same
      · intro found present
        exact Cache.eq_of_found?_set sorted done present
      · intro keeps
        exact Cache.found?_set_self keeps done
  | error error =>
      refine .inr ⟨error, _, rfl, ⟨rfl, rfl⟩, rfl, ?_⟩
      intro takes
      obtain ⟨cache, done'⟩ := Cache.exists_set store.cache name takes
      cases done.symm.trans done'

end Store

/-! ## Loading -/

namespace Policy

variable {policy : Policy} {name : String} {store : Store}

/-- What compiling the source of a template leads to, but for the moment. -/
def fresh (policy : Policy) (sources : Sources) (name : String) : Except Failure Code :=
  match sources.fetch name with
  | .error error => .error (.load error)
  | .ok source => compileSource policy.dialect policy.optimize ⟨0⟩ name source.content

theorem fresh_eq_ok {sources : Sources} {code : Code}
    (compiled : policy.fresh sources name = .ok code) :
    ∃ source, sources.fetch name = .ok source ∧
      compileSource policy.dialect policy.optimize ⟨0⟩ name source.content = .ok code := by
  unfold fresh at compiled
  split at compiled
  · cases compiled
  · next source fetched => exact ⟨source, fetched, compiled⟩

/-- Whether code from the cache may be used. -/
def Usable (policy : Policy) (sources : Sources) (name : String) (code : Code) : Prop :=
  match policy.strategy with
  | .never => False
  | .verify => ∃ source, sources.fetch name = .ok source ∧
      source.modified.isAfter code.generatedAt = false
  | .noVerify => True

/-- The cache is as before, or lacks code that is out of date. -/
def Prunes (policy : Policy) (name : String) (store after : Store) : Prop :=
  after.found? = store.found? ∨
    policy.strategy = .verify ∧ after.found? = Function.update store.found? name none

/-- The cache has new code, if it is used at all and can hand the code back. -/
def Stores (policy : Policy) (name : String) (code : Code) (store after : Store) : Prop :=
  policy.strategy = .never ∧ after.found? = store.found? ∨
    policy.strategy ≠ .never ∧ ∃ kept, after.found? = Function.update store.found? name kept ∧
      (∀ found ∈ kept, found = code) ∧
      (store.cache.inMemory = true ∨ code.Fits → kept = some code)

/-- The ways in which loading a template ends. -/
inductive Loads (policy : Policy) (name : String) (store after : Store) :
    Except Failure Code → Prop where
  /-- The code in the cache may be used. -/
  | reused {code : Code} (usable : policy.Usable store.sources name code)
      (present : store.found? name = some code) (same : after.found? = store.found?) :
      Loads policy name store after (.ok code)
  /-- The source is compiled. -/
  | renewed {code : Code} (reading : Nat)
      (unused : policy.strategy = .noVerify → store.found? name = none)
      (compiled : policy.fresh store.sources name = .ok code.undated)
      (moment : code.generatedAt = policy.clock reading)
      (stored : policy.Stores name code store after) :
      Loads policy name store after (.ok code)
  /-- There is no source, or it cannot be compiled. -/
  | refused {failure : Failure} (unused : policy.strategy = .noVerify → store.found? name = none)
      (fails : policy.fresh store.sources name = .error failure)
      (pruned : policy.Prunes name store after) :
      Loads policy name store after (.error failure)
  /-- The cache does not take the code: it keeps files, and the clock is before 1970. -/
  | unkept {error : LoadError} (reading : Nat)
      (unused : policy.strategy = .noVerify → store.found? name = none)
      (files : store.cache.inMemory = false)
      (early : (policy.clock reading).nanoseconds < 0) (pruned : policy.Prunes name store after) :
      Loads policy name store after (.error (.load error))

theorem Prunes.succeeded {between after : Store} (pruned : policy.Prunes name store between)
    (same : after.found? = between.found?) : policy.Prunes name store after := by
  rwa [Prunes, same]

theorem loads_keep {between : Store} {code : Code} {reading : Nat} {content : String}
    (succeeds : store.Succeeds between) (pruned : policy.Prunes name store between)
    (unused : policy.strategy = .noVerify → store.found? name = none)
    (fetched : ∃ modified, store.sources.fetch name = .ok ⟨content, modified⟩)
    (made : compileSource policy.dialect policy.optimize (policy.clock reading) name content =
      .ok code) :
    store.Succeeds (policy.keep name code between).2 ∧
      policy.Loads name store (policy.keep name code between).2
        (policy.keep name code between).1 := by
  obtain ⟨modified, fetched⟩ := fetched
  have compiled : policy.fresh store.sources name = .ok code.undated := by
    rw [fresh, fetched]
    exact compileSource_eq_ok made
  have moment := generatedAt_of_compileSource made
  unfold keep
  split
  · next never =>
      have same : between.found? = store.found? :=
        pruned.resolve_right fun verified => nomatch never.symm.trans verified.1
      exact ⟨succeeds, .renewed reading unused compiled moment (.inl ⟨never, same⟩)⟩
  · next used =>
      obtain ⟨after, kept, set, succeeds', updated, only, whole⟩ |
        ⟨error, after, set, succeeds', same, untaken⟩ :=
        between.set_cases name (sorted_of_compileSource made)
      · rw [set]
        refine ⟨succeeds.trans succeeds', .renewed reading unused compiled moment (.inr ⟨used, kept,
          ?_, only, ?_⟩)⟩
        · rcases pruned with pruned | ⟨_, pruned⟩
          · rw [updated, pruned]
          · rw [updated, pruned, Function.update_idem]
        · rwa [← succeeds.inMemory]
      · rw [set]
        rw [not_or, succeeds.inMemory, moment] at untaken
        exact ⟨succeeds.trans succeeds', .unkept reading unused (by simpa using untaken.1)
          (not_le.mp untaken.2) (pruned.succeeded same)⟩

theorem loads_renew {between : Store} (succeeds : store.Succeeds between)
    (pruned : policy.Prunes name store between)
    (unused : policy.strategy = .noVerify → store.found? name = none) :
    store.Succeeds (policy.renew name between).2 ∧
      policy.Loads name store (policy.renew name between).2 (policy.renew name between).1 := by
  unfold renew Store.fetch compile
  rw [succeeds.sources]
  cases fetched : store.sources.fetch name with
  | error error =>
      have fails : policy.fresh store.sources name = .error (.load error) := by
        rw [fresh, fetched]
      exact ⟨succeeds.trans ⟨rfl, rfl⟩, .refused unused fails (pruned.succeeded rfl)⟩
  | ok source =>
      obtain ⟨content, modified⟩ := source
      dsimp only [Store.note]
      cases made : compileSource policy.dialect policy.optimize (policy.clock between.readings) name
          content with
      | error failure =>
          have fails : policy.fresh store.sources name = .error failure := by
            rw [fresh, fetched]
            show compileSource policy.dialect policy.optimize ⟨0⟩ name content = .error failure
            rw [← compileSource_undated _ _ (policy.clock between.readings), made]
            rfl
          exact ⟨succeeds.trans ⟨rfl, rfl⟩, .refused unused fails (pruned.succeeded rfl)⟩
      | ok code =>
          exact loads_keep (succeeds.trans ⟨rfl, rfl⟩) (pruned.succeeded rfl) unused
            ⟨modified, fetched⟩ made

/-- What loading a template does. -/
theorem loads_load (policy : Policy) (name : String) (store : Store) :
    store.Succeeds (policy.load name store).2 ∧
      policy.Loads name store (policy.load name store).2 (policy.load name store).1 := by
  have asked := store.succeeds_get name
  have same := store.found?_get name
  unfold load reuse
  cases strategy : policy.strategy with
  | never =>
      exact loads_renew (.refl store) (.inl rfl) fun other => nomatch strategy.symm.trans other
  | noVerify =>
      cases got : store.get name with
      | mk found between =>
          rw [got] at asked same
          have present : store.found? name = found := congrArg Prod.fst got
          cases found with
          | none => exact loads_renew asked (.inl same) fun _ => present
          | some code =>
              refine ⟨asked, .reused ?_ present same⟩
              rw [Usable, strategy]
              trivial
  | verify =>
      have used : policy.strategy = .noVerify → store.found? name = none :=
        fun other => nomatch strategy.symm.trans other
      cases got : store.get name with
      | mk found between =>
          rw [got] at asked same
          have present : store.found? name = found := congrArg Prod.fst got
          cases found with
          | none => exact loads_renew asked (.inl same) used
          | some code =>
              dsimp only
              rw [Store.fetch, asked.sources]
              cases fetched : store.sources.fetch name with
              | error error =>
                  have fails : policy.fresh store.sources name = .error (.load error) := by
                    rw [fresh, fetched]
                  exact ⟨asked.trans ⟨rfl, rfl⟩, .refused used fails (.inl same)⟩
              | ok source =>
                  dsimp only [Store.note]
                  by_cases stale : source.modified.isAfter code.generatedAt = true
                  · rw [if_pos stale]
                    refine loads_renew ?_ (.inr ⟨strategy, ?_⟩) used
                    · exact asked.trans ⟨rfl, Cache.inMemory_delete between.cache name⟩
                    · rw [Store.found?_delete]
                      exact congrArg (Function.update · name none) same
                  · rw [if_neg stale]
                    refine ⟨asked.trans ⟨rfl, rfl⟩, .reused ?_ present same⟩
                    rw [Usable, strategy]
                    exact ⟨source, fetched, Bool.eq_false_iff.mpr stale⟩

/-! ## What loads keep -/

/-- Code that is what the source compiles to, as long as it may be used. -/
def Sound (policy : Policy) (sources : Sources) (name : String) (code : Code) : Prop :=
  policy.Usable sources name code → policy.fresh sources name = .ok code.undated

/-- Code stays sound when its source changes, as long as the new source is later than the code. -/
theorem Sound.change {sources sources' : Sources} {code : Code}
    (sound : policy.Sound sources name code) (used : policy.strategy ≠ .noVerify)
    (changed : ∀ source, sources'.fetch name = .ok source →
      sources.fetch name = .ok source ∨ source.modified.isAfter code.generatedAt = true) :
    policy.Sound sources' name code := by
  intro usable
  unfold Sound Usable at sound
  unfold Usable at usable
  cases strategy : policy.strategy with
  | never =>
      rw [strategy] at usable
      cases usable
  | noVerify => exact absurd strategy used
  | verify =>
      rw [strategy] at sound usable
      obtain ⟨source, fetched, current⟩ := usable
      rcases changed source fetched with before | later
      · have compiled := sound ⟨source, before, current⟩
        rw [fresh, before] at compiled
        rw [fresh, fetched]
        exact compiled
      · cases current.symm.trans later

/-- Whether the cache takes whatever is compiled. -/
def Takes (policy : Policy) (store : Store) : Prop :=
  store.cache.inMemory = true ∨ ∀ reading, 0 ≤ (policy.clock reading).nanoseconds

/-- A cache in which nothing is found, and that takes whatever is compiled. Files take no code from
before 1970. -/
def Vacant (policy : Policy) (cache : Cache) : Prop :=
  cache = .memory [] ∨ cache = .files [] ∧ ∀ reading, 0 ≤ (policy.clock reading).nanoseconds

theorem Vacant.found? {cache : Cache} (vacant : policy.Vacant cache) (sources : Sources) :
    (Store.create sources cache).found? name = none := by
  rcases vacant with rfl | ⟨rfl, _⟩
  · rfl
  · rfl

theorem Vacant.takes {cache : Cache} (vacant : policy.Vacant cache) (sources : Sources) :
    policy.Takes (.create sources cache) := by
  rcases vacant with rfl | ⟨_, late⟩
  · exact .inl rfl
  · exact .inr late

section Kept

variable {after : Store} {result : Except Failure Code} {other : String} {code : Code}

theorem Takes.succeeds (takes : policy.Takes store) (succeeds : store.Succeeds after) :
    policy.Takes after := by
  rwa [Takes, succeeds.inMemory]

theorem Prunes.of_found? (pruned : policy.Prunes name store after)
    (present : after.found? other = some code) : store.found? other = some code := by
  rcases pruned with same | ⟨_, without⟩
  · rwa [← same]
  · rw [without] at present
    by_cases same : other = name
    · subst same
      rw [Function.update_self] at present
      cases present
    · rwa [Function.update_of_ne same] at present

theorem Prunes.found?_of_ne (pruned : policy.Prunes name store after) (distinct : other ≠ name) :
    after.found? other = store.found? other := by
  rcases pruned with same | ⟨_, without⟩
  · rw [same]
  · rw [without, Function.update_of_ne distinct]

theorem Stores.found?_of_ne (stored : policy.Stores name code store after)
    (distinct : other ≠ name) : after.found? other = store.found? other := by
  rcases stored with ⟨_, same⟩ | ⟨_, kept, updated, _⟩
  · rw [same]
  · rw [updated, Function.update_of_ne distinct]

namespace Loads

/-- From sound code a load leads to what compiling the source leads to. -/
theorem map_undated (loads : policy.Loads name store after result) (takes : policy.Takes store)
    (sound : ∀ code, store.found? name = some code → policy.Sound store.sources name code) :
    result.map Code.undated = policy.fresh store.sources name := by
  cases loads with
  | reused usable present same => exact (sound _ present usable).symm
  | renewed reading unused compiled moment stored => exact compiled.symm
  | refused unused fails pruned => exact fails.symm
  | unkept reading unused files early pruned =>
      rcases takes with memory | late
      · cases files.symm.trans memory
      · exact absurd early (not_lt.mpr (late reading))

theorem found?_of_ne (loads : policy.Loads name store after result) (distinct : other ≠ name) :
    after.found? other = store.found? other := by
  cases loads with
  | reused usable present same => rw [same]
  | renewed reading unused compiled moment stored => exact stored.found?_of_ne distinct
  | refused unused fails pruned => exact pruned.found?_of_ne distinct
  | unkept reading unused files early pruned => exact pruned.found?_of_ne distinct

/-- What is found after a load was found before, or it is what the load led to. -/
theorem found?_cases (loads : policy.Loads name store after result)
    (present : after.found? other = some code) :
    store.found? other = some code ∨
      other = name ∧ result = .ok code ∧ policy.fresh store.sources name = .ok code.undated := by
  cases loads with
  | reused usable found same => exact .inl (same ▸ present)
  | refused unused fails pruned => exact .inl (pruned.of_found? present)
  | unkept reading unused files early pruned => exact .inl (pruned.of_found? present)
  | renewed reading unused compiled moment stored =>
      by_cases here : other = name
      · rcases stored with ⟨_, same⟩ | ⟨_, kept, updated, only, _⟩
        · exact .inl (same ▸ present)
        · subst here
          rw [updated, Function.update_self] at present
          obtain rfl := only code present
          exact .inr ⟨rfl, rfl, compiled⟩
      · exact .inl ((stored.found?_of_ne here).symm.trans present)

/-- What is found where code was loaded is that code. -/
theorem eq_of_found? {found : Code} (loads : policy.Loads name store after (.ok code))
    (used : policy.strategy ≠ .never) (present : after.found? name = some found) :
    found = code := by
  cases loads with
  | reused usable found' same =>
      rw [same, found'] at present
      exact (Option.some.inj present).symm
  | renewed reading unused compiled moment stored =>
      obtain ⟨_, kept, updated, only, _⟩ := stored.resolve_left fun stored => used stored.1
      rw [updated, Function.update_self] at present
      exact only found present

/-- Under the strategy to use code whenever there is some, it is used. -/
theorem eq_ok (loads : policy.Loads name store after result)
    (strategy : policy.strategy = .noVerify) (present : store.found? name = some code) : result = .ok code := by
  cases loads with
  | reused usable found same => rw [Option.some.inj (present.symm.trans found)]
  | renewed reading unused compiled moment stored => cases present.symm.trans (unused strategy)
  | refused unused fails pruned => cases present.symm.trans (unused strategy)
  | unkept reading unused files early pruned => cases present.symm.trans (unused strategy)

theorem found?_of_error {failure : Failure} (loads : policy.Loads name store after (.error failure))
    (strategy : policy.strategy = .noVerify) : after.found? = store.found? := by
  have unverified : policy.strategy ≠ .verify := fun verify => nomatch strategy.symm.trans verify
  cases loads with
  | refused unused fails pruned => exact pruned.resolve_right fun pruned => unverified pruned.1
  | unkept reading unused files early pruned =>
      exact pruned.resolve_right fun pruned => unverified pruned.1

/-- Code that was loaded is found, if the cache can hand it back. -/
theorem found?_self (loads : policy.Loads name store after (.ok code))
    (used : policy.strategy ≠ .never) (keeps : store.cache.inMemory = true ∨ code.Fits) :
    after.found? name = some code := by
  cases loads with
  | reused usable present same => rw [same, present]
  | renewed reading unused compiled moment stored =>
      obtain ⟨_, kept, updated, _, whole⟩ := stored.resolve_left fun stored => used stored.1
      rw [updated, Function.update_self, whole keeps]

end Loads

end Kept

end Policy

end Stencil

import Stencil.Proofs.Code.Torn
import Stencil.Proofs.Store.Loading

/-!
# Damaged files of a cache

What is in the file of a template may come from anywhere. Bytes that are not the form of any code are
discarded, and the template is compiled anew. Bytes that happen to be the form of some code are taken
for the code of the template: its check is made when it is compiled and not when it is read.
-/

namespace Stencil

/-- A store that keeps its cache in a folder. -/
def Store.withFolder (store : Store) (folder : Dictionary Wire.Bytes) : Store :=
  { store with cache := .files folder }

namespace Policy

variable {policy : Policy} {name : String} {store : Store} {folder : Dictionary Wire.Bytes}
  {code : Code} {bytes : Wire.Bytes}

/-- The file of a template is the form of code that fails the check, and that may be used. -/
structure Slips (policy : Policy) (sources : Sources) (folder : Dictionary Wire.Bytes)
    (name : String) (code : Code) : Prop where
  decoded : ∃ bytes, folder.find? (Cache.fileName name) = some bytes ∧
    Code.ofBytes name bytes = .ok code
  unchecked : code.check ≠ .ok ()
  usable : policy.Usable sources name code

/-! ## Files that are code -/

theorem found?_withFolder :
    (store.withFolder folder).found? name = some code ↔
      ∃ bytes, folder.find? (Cache.fileName name) = some bytes ∧
        Code.ofBytes name bytes = .ok code := by
  have found : (store.withFolder folder).found? name = (folder.find? (Cache.fileName name)).bind
      fun bytes => (Code.ofBytes name bytes).toOption := Cache.found?_files folder name
  rw [found, Option.bind_eq_some_iff]
  refine exists_congr fun bytes => and_congr_right fun _ => ?_
  cases Code.ofBytes name bytes with
  | error error => exact ⟨nofun, nofun⟩
  | ok other => rw [Except.toOption, Option.some.injEq, Except.ok.injEq]

/-- Code in the cache that may be used is what a load hands out. -/
theorem load_of_usable (present : store.found? name = some code)
    (usable : policy.Usable store.sources name code) : (policy.load name store).1 = .ok code := by
  obtain ⟨between, got, sources⟩ : ∃ between, store.get name = (some code, between) ∧
      between.sources = store.sources := ⟨_, Prod.ext present rfl, rfl⟩
  unfold Usable at usable
  unfold load reuse
  cases strategy : policy.strategy with
  | never =>
      rw [strategy] at usable
      cases usable
  | noVerify => simp only [got]
  | verify =>
      rw [strategy] at usable
      obtain ⟨source, fetched, current⟩ := usable
      rw [← sources] at fetched
      simp only [got, Store.fetch, fetched, current]
      rfl

/-- What is handed out was in the cache, or passes the check. -/
theorem check_of_load (loaded : (policy.load name store).1 = .ok code) :
    store.found? name = some code ∧ policy.Usable store.sources name code ∨
      code.check = .ok () := by
  obtain ⟨_, loads⟩ := policy.loads_load name store
  rw [loaded] at loads
  cases loads with
  | reused usable present _ => exact .inl ⟨present, usable⟩
  | renewed _ _ compiled _ _ =>
      obtain ⟨source, _, made⟩ := fresh_eq_ok compiled
      have checked : code.undated.check = .ok () := check_of_compileSource made
      exact .inr checked

/-- Code that fails the check is handed out just where a file slips. -/
theorem unchecked_load_iff :
    (policy.load name (store.withFolder folder)).1 = .ok code ∧ code.check ≠ .ok () ↔
      policy.Slips store.sources folder name code := by
  constructor
  · rintro ⟨loaded, unchecked⟩
    obtain ⟨present, usable⟩ | checked := check_of_load loaded
    · exact ⟨found?_withFolder.mp present, unchecked, usable⟩
    · exact absurd checked unchecked
  · intro slips
    exact ⟨load_of_usable (found?_withFolder.mpr slips.decoded) slips.usable, slips.unchecked⟩

/-! ## Files that are no code -/

/-- A file that is no code is removed and the template compiled, if the cache is used at all. -/
theorem load_of_undecodable {error : LoadError} (used : policy.strategy ≠ .never)
    (present : folder.find? (Cache.fileName name) = some bytes)
    (refused : Code.ofBytes name bytes = .error error) :
    policy.load name (store.withFolder folder) =
      policy.renew name
        ((store.withFolder (folder.erase (Cache.fileName name))).note (.get name false)) := by
  have missed : (Cache.files folder).get name =
      (none, .files (folder.erase (Cache.fileName name))) := by
    simp only [Cache.get, present, refused]
  have got : (store.withFolder folder).get name = (none,
      (store.withFolder (folder.erase (Cache.fileName name))).note (.get name false)) := by
    unfold Store.get
    rw [show (store.withFolder folder).cache = .files folder from rfl, missed]
    rfl
  unfold load reuse
  cases strategy : policy.strategy with
  | never => exact absurd strategy used
  | noVerify => simp only [got]
  | verify => simp only [got]

theorem load_of_never (never : policy.strategy = .never) :
    policy.load name store = policy.renew name store := by
  unfold load reuse
  rw [never]

/-! ## Any files -/

/-- What a load does with whatever is in the file of its template. -/
structure Screens (policy : Policy) (name : String) (store : Store)
    (folder : Dictionary Wire.Bytes) : Prop where
  /-- Bytes that are no code are discarded, and the template is compiled anew. -/
  discarded : ∀ bytes error, policy.strategy ≠ .never →
    folder.find? (Cache.fileName name) = some bytes → Code.ofBytes name bytes = .error error →
      policy.load name (store.withFolder folder) =
        policy.renew name
          ((store.withFolder (folder.erase (Cache.fileName name))).note (.get name false))
  /-- The file does not matter where the cache is not used. -/
  unused : policy.strategy = .never →
    policy.load name (store.withFolder folder) = policy.renew name (store.withFolder folder)
  /-- The code that is handed out passes the check, but for a file that slips. -/
  checked : ∀ code, (policy.load name (store.withFolder folder)).1 = .ok code →
    code.check = .ok () ∨ policy.Slips store.sources folder name code
  /-- A file that slips is handed out. -/
  slipped : ∀ code, policy.Slips store.sources folder name code →
    (policy.load name (store.withFolder folder)).1 = .ok code

theorem load_screens (policy : Policy) (name : String) (store : Store)
    (folder : Dictionary Wire.Bytes) : policy.Screens name store folder where
  discarded _ _ used present refused := load_of_undecodable used present refused
  unused := load_of_never
  checked code loaded := by
    by_cases sound : code.check = .ok ()
    · exact .inl sound
    · exact .inr (unchecked_load_iff.mp ⟨loaded, sound⟩)
  slipped _ slips := (unchecked_load_iff.mpr slips).1

/-- The bytes of code with one idle instruction, which does not end its stream. -/
def endless : Wire.Bytes :=
  [0x01, 0x62, 0xd0, 0x0f, 0x00, 0x01, 0x00, 0x00]

def endlessStore : Store :=
  .create (.memory [("x", ⟨"hi", ⟨1000000000000⟩⟩)]) (.files [("x.kbc", endless)])

/-- A file with code that does not end is handed out as the code of a template. -/
theorem endless_not_checked :
    ¬ ∀ (policy : Policy) (name : String) (store : Store) (folder : Dictionary Wire.Bytes)
      (code : Code), (policy.load name (store.withFolder folder)).1 = .ok code →
        code.check = .ok () := by
  intro checks
  have loaded : (Policy.load ⟨.verify, .standard, true, fun _ => ⟨0⟩⟩ "x"
      (endlessStore.withFolder [("x.kbc", endless)])).1 =
        .ok ⟨"b", ⟨2000000000000⟩, [.noop], []⟩ := by
    decide +kernel
  cases checks _ _ _ _ _ loaded

end Policy

end Stencil

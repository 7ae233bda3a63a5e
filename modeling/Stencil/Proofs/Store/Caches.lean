import Stencil.Proofs.Code.Faithful
import Stencil.Proofs.Text.Percent

/-!
# Caches

Under a name a cache finds the code that was put there last, unless it was deleted since, and what
is done under other names does not matter. Whether the code is kept in memory or in files makes no
difference, as long as it fits into them.
-/

namespace Stencil.Cache

section Changes

variable {cache after : Cache} {name other : String} {code : Code}

theorem fileName_inj (same : fileName name = fileName other) : name = other :=
  Text.Percent.encode_inj (String.append_left_inj _ |>.mp same)

/-- The code under a name. -/
def found? (cache : Cache) (name : String) : Option Code :=
  (cache.get name).1

theorem found?_memory (entries : Dictionary Code) (name : String) :
    (memory entries).found? name = entries.find? name :=
  rfl

theorem found?_files (folder : Dictionary Wire.Bytes) (name : String) :
    (files folder).found? name =
      (folder.find? (fileName name)).bind fun bytes => (Code.ofBytes name bytes).toOption := by
  unfold found? get
  dsimp only
  split
  · next absent => rw [absent]; rfl
  · next bytes present =>
      rw [present, Option.bind_some]
      split
      · next decoded => rw [decoded]; rfl
      · next refused => rw [refused]; rfl

/-! ## What a request changes -/

theorem found?_delete_self (cache : Cache) (name : String) :
    (cache.delete name).found? name = none := by
  cases cache with
  | memory entries => exact Dictionary.find?_erase_self entries name
  | files folder => rw [delete, found?_files, Dictionary.find?_erase_self]; rfl

theorem found?_delete_of_ne (cache : Cache) (distinct : other ≠ name) :
    (cache.delete name).found? other = cache.found? other := by
  cases cache with
  | memory entries => exact Dictionary.find?_erase_of_ne entries distinct
  | files folder =>
      have apart : fileName other ≠ fileName name := fun same => distinct (fileName_inj same)
      rw [delete, found?_files, found?_files, Dictionary.find?_erase_of_ne folder apart]

/-- Asking for code changes nothing that is found: only a file that holds none is removed. -/
theorem found?_get (cache : Cache) (name other : String) :
    (cache.get name).2.found? other = cache.found? other := by
  cases cache with
  | memory entries => rfl
  | files folder =>
      unfold get
      dsimp only
      split
      · rfl
      · next bytes present =>
          split
          · rfl
          · next refused =>
              by_cases same : other = name
              · subst same
                rw [found?_files, found?_files, Dictionary.find?_erase_self, present,
                  Option.bind_some, refused]
                rfl
              · exact found?_delete_of_ne (files folder) same

theorem set_files {folder : Dictionary Wire.Bytes}
    (set : (files folder).set name code = .ok after) :
    ∃ bytes, code.toBytes = .ok bytes ∧ after = files (folder.insert (fileName name) bytes) := by
  unfold Cache.set at set
  dsimp only at set
  split at set
  · next bytes written =>
      cases set
      exact ⟨bytes, written, rfl⟩
  · cases set

theorem found?_set_of_ne (set : cache.set name code = .ok after) (distinct : other ≠ name) :
    after.found? other = cache.found? other := by
  cases cache with
  | memory entries =>
      cases set
      exact Dictionary.find?_insert_of_ne entries code distinct
  | files folder =>
      obtain ⟨bytes, _, rfl⟩ := set_files set
      have apart : fileName other ≠ fileName name := fun same => distinct (fileName_inj same)
      rw [found?_files, found?_files, Dictionary.find?_insert_of_ne folder _ apart]

/-- What is found where code was put is that code, if anything. -/
theorem eq_of_found?_set {found : Code} (sorted : Dictionary.Sorted code.macros)
    (set : cache.set name code = .ok after) (present : after.found? name = some found) :
    found = code := by
  cases cache with
  | memory entries =>
      cases set
      rw [found?_memory, Dictionary.find?_insert_self] at present
      exact (Option.some.inj present).symm
  | files folder =>
      obtain ⟨bytes, written, rfl⟩ := set_files set
      rw [found?_files, Dictionary.find?_insert_self, Option.bind_some] at present
      cases decoded : Code.ofBytes name bytes with
      | error error =>
          rw [decoded] at present
          cases present
      | ok code' =>
          rw [decoded] at present
          cases present
          exact Code.eq_of_ofBytes sorted written decoded

/-- Whether code is kept in memory. -/
def inMemory : Cache → Bool
  | memory _ => true
  | files _ => false

theorem inMemory_get (cache : Cache) (name : String) :
    (cache.get name).2.inMemory = cache.inMemory := by
  cases cache with
  | memory entries => rfl
  | files folder =>
      unfold get
      dsimp only
      split
      · rfl
      · split <;> rfl

theorem inMemory_delete (cache : Cache) (name : String) :
    (cache.delete name).inMemory = cache.inMemory := by
  cases cache <;> rfl

theorem inMemory_set (set : cache.set name code = .ok after) :
    after.inMemory = cache.inMemory := by
  cases cache with
  | memory entries =>
      cases set
      rfl
  | files folder =>
      obtain ⟨bytes, _, rfl⟩ := set_files set
      rfl

/-- Files take code from 1970 on. -/
theorem exists_set (cache : Cache) (name : String)
    (takes : cache.inMemory = true ∨ 0 ≤ code.generatedAt.nanoseconds) :
    ∃ after, cache.set name code = .ok after := by
  cases cache with
  | memory entries => exact ⟨_, rfl⟩
  | files folder =>
      have dated := takes.resolve_left nofun
      obtain ⟨bytes, written⟩ := Code.toBytes_of_dated dated
      exact ⟨_, by rw [Cache.set, written]⟩

/-- Files keep code that fits into them. -/
theorem found?_set_self (keeps : cache.inMemory = true ∨ code.Fits)
    (set : cache.set name code = .ok after) : after.found? name = some code := by
  cases cache with
  | memory entries =>
      cases set
      exact Dictionary.find?_insert_self entries name code
  | files folder =>
      have fits := keeps.resolve_left nofun
      obtain ⟨bytes, written, rfl⟩ := set_files set
      have back := Code.ofBytes_of_toBytes fits written name []
      rw [List.append_nil] at back
      rw [found?_files, Dictionary.find?_insert_self, Option.bind_some, back]
      rfl

end Changes

/-! ## Sequences of requests -/

inductive Request where
  | set (name : String) (code : Code)
  | get (name : String)
  | delete (name : String)

inductive Answer where
  | done
  | found (code : Option Code)
  | refused (error : LoadError)

namespace Request

def name : Request → String
  | set name _ | get name | delete name => name

/-- What is found under a name after a request, given what was found before. -/
def leaves (name : String) (found : Option Code) : Request → Option Code
  | set key code => if key = name then some code else found
  | get _ => found
  | delete key => if key = name then none else found

/-- The answer to a request, given what is found. -/
def answer (found : String → Option Code) : Request → Answer
  | set _ _ | delete _ => .done
  | get name => .found (found name)

/-- Code that is put somewhere fits into files, and is from 1970 on. -/
def Fits : Request → Prop
  | set _ code => code.Fits ∧ 0 ≤ code.generatedAt.nanoseconds
  | get _ | delete _ => True

theorem leaves_of_ne {request : Request} {name : String} (distinct : request.name ≠ name)
    (found : Option Code) :
    request.leaves name found = found := by
  cases request with
  | set key code => exact if_neg distinct
  | get key => rfl
  | delete key => exact if_neg distinct

end Request

def respond (cache : Cache) : Request → Answer × Cache
  | .set name code =>
      match cache.set name code with
      | .ok after => (.done, after)
      | .error error => (.refused error, cache)
  | .get name =>
      let (found, after) := cache.get name
      (.found found, after)
  | .delete name => (.done, cache.delete name)

/-- The answers to requests, one after the other, and the cache after them. -/
def respondAll (cache : Cache) : List Request → List Answer × Cache
  | [] => ([], cache)
  | request :: rest =>
      let (answer, after) := cache.respond request
      let (answers, last) := after.respondAll rest
      (answer :: answers, last)

variable {cache : Cache} {requests : List Request}

theorem answer_respond {request : Request} (fits : request.Fits) :
    (cache.respond request).1 = request.answer cache.found? := by
  cases request with
  | set name code =>
      obtain ⟨after, set⟩ := exists_set cache name (.inr fits.2)
      rw [respond, set]
      rfl
  | get name => rfl
  | delete name => rfl

theorem found?_respond {request : Request} (fits : request.Fits) (name : String) :
    (cache.respond request).2.found? name = request.leaves name (cache.found? name) := by
  cases request with
  | set key code =>
      obtain ⟨after, set⟩ := exists_set cache key (.inr fits.2)
      rw [respond, set]
      show after.found? name = if key = name then some code else cache.found? name
      split
      · next same =>
          subst same
          exact found?_set_self (.inr fits.1) set
      · next distinct => exact found?_set_of_ne set (Ne.symm distinct)
  | get key => exact found?_get cache key name
  | delete key =>
      show (cache.delete key).found? name = if key = name then none else cache.found? name
      split
      · next same =>
          subst same
          exact found?_delete_self cache key
      · next distinct => exact found?_delete_of_ne cache (Ne.symm distinct)

/-- What is found after some requests was left there by them, one after the other. -/
theorem found?_respondAll (cache : Cache) (fits : ∀ request ∈ requests, request.Fits)
    (name : String) :
    (cache.respondAll requests).2.found? name =
      requests.foldl (fun found request => request.leaves name found) (cache.found? name) := by
  induction requests generalizing cache with
  | nil => rfl
  | cons request rest ih =>
      obtain ⟨here, others⟩ := List.forall_mem_cons.mp fits
      rw [List.foldl_cons, ← found?_respond here]
      exact ih _ others

/-- Caches in which the same is found answer alike. -/
theorem answers_respondAll {cache' : Cache} (fits : ∀ request ∈ requests, request.Fits)
    (same : cache.found? = cache'.found?) :
    (cache.respondAll requests).1 = (cache'.respondAll requests).1 := by
  induction requests generalizing cache cache' with
  | nil => rfl
  | cons request rest ih =>
      obtain ⟨here, others⟩ := List.forall_mem_cons.mp fits
      have first : (cache.respond request).1 = (cache'.respond request).1 := by
        rw [answer_respond here, answer_respond here, same]
      have left : (cache.respond request).2.found? = (cache'.respond request).2.found? := by
        funext name
        rw [found?_respond here, found?_respond here, same]
      exact congrArg₂ List.cons first (ih others left)

theorem foldl_leaves_filter (requests : List Request) (name : String) (found : Option Code) :
    (requests.filter (·.name = name)).foldl (fun found request => request.leaves name found) found =
      requests.foldl (fun found request => request.leaves name found) found := by
  induction requests generalizing found with
  | nil => rfl
  | cons request rest ih =>
      rw [List.filter_cons, List.foldl_cons]
      split
      · exact ih _
      · next other =>
          rw [ih, Request.leaves_of_ne]
          simpa using other

/-- Files answer every sequence of requests as memory does, and what they find under a name is what
they would find if nothing had been done under any other name. -/
theorem files_respond_as_memory (fits : ∀ request ∈ requests, request.Fits) :
    ((files []).respondAll requests).1 = ((memory []).respondAll requests).1 ∧
    ∀ name, (((files []).respondAll requests).2.get name).1 =
      (((files []).respondAll (requests.filter (·.name = name))).2.get name).1 := by
  constructor
  · exact answers_respondAll fits rfl
  · intro name
    have some : ∀ request ∈ requests.filter (·.name = name), request.Fits :=
      fun request inside => fits request (List.mem_filter.mp inside).1
    have whole := found?_respondAll (files []) fits name
    have part := found?_respondAll (files []) some name
    rw [foldl_leaves_filter] at part
    exact whole.trans part.symm

/-- Requests under names that differ in a slash, a percent sign or a letter's case. -/
def lookalikes : List Request :=
  [.set "a/b" Code.atBounds, .set "a%2Fb" { Code.atBounds with name := "" }, .delete "A/B",
    .get "a/b", .set ".." { Code.atBounds with ops := [] }, .delete "a/b", .get "a%2Fb", .get "a/b",
    .get "", .get ".."]

theorem lookalikes_respond :
    (∀ request ∈ lookalikes, request.Fits) ∧
    ((files []).respondAll lookalikes).1 =
      [.done, .done, .done, .found (some Code.atBounds), .done, .done,
        .found (some { Code.atBounds with name := "" }), .found none, .found none,
        .found (some { Code.atBounds with ops := [] })] ∧
    ∀ name, (((files []).respondAll lookalikes).2.get name).1 =
      (((files []).respondAll (lookalikes.filter (·.name = name))).2.get name).1 := by
  have fits : ∀ request ∈ lookalikes, request.Fits := by
    have whole := Code.atBounds_fits
    have unnamed : Code.Fits { Code.atBounds with name := "" } :=
      ⟨by decide, whole.seconds, whole.ops, whole.macros, whole.sorted⟩
    have empty : Code.Fits { Code.atBounds with ops := [] } :=
      ⟨whole.name, whole.seconds, ⟨by decide, nofun⟩, whole.macros, whole.sorted⟩
    simp only [lookalikes, List.forall_mem_cons, Request.Fits]
    exact ⟨⟨whole, by decide⟩, ⟨unnamed, by decide⟩, trivial, trivial, ⟨empty, by decide⟩, trivial,
      trivial, trivial, trivial, trivial, nofun⟩
  obtain ⟨alike, apart⟩ := files_respond_as_memory fits
  refine ⟨fits, ?_, apart⟩
  rw [alike]
  rfl

end Stencil.Cache

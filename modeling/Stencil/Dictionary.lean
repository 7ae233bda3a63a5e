/-!
# Dictionaries

Values under distinct keys, held in increasing order of the keys. The order of texts by code point
is also the order of their UTF-8 bytes.
-/

namespace Stencil

abbrev Dictionary (α : Type) := List (String × α)

namespace Dictionary

variable {α : Type}

/-- Puts a value under a key, in place of the one that was there. -/
def insert (key : String) (value : α) : Dictionary α → Dictionary α
  | [] => [(key, value)]
  | (other, kept) :: rest =>
      if key < other then (key, value) :: (other, kept) :: rest
      else if key = other then (key, value) :: rest
      else (other, kept) :: insert key value rest

def find? (entries : Dictionary α) (key : String) : Option α :=
  entries.lookup key

def keys (entries : Dictionary α) : List String :=
  entries.map Prod.fst

def values (entries : Dictionary α) : List α :=
  entries.map Prod.snd

def erase (entries : Dictionary α) (key : String) : Dictionary α :=
  entries.filter (·.1 ≠ key)

/-- Later entries of the list take the place of earlier ones with the same key. -/
def ofList (entries : List (String × α)) : Dictionary α :=
  entries.foldl (fun found (key, value) => found.insert key value) []

theorem find?_insert_self (entries : Dictionary α) (key : String) (value : α) :
    (entries.insert key value).find? key = some value := by
  induction entries with
  | nil => simp [insert, find?]
  | cons entry rest ih =>
      obtain ⟨other, kept⟩ := entry
      simp only [insert]
      split
      · simp [find?]
      · split
        · simp [find?]
        · next distinct =>
            simp only [find?, List.lookup_cons]
            rw [show (key == other) = false by simpa using distinct]
            exact ih

theorem find?_insert_of_ne (entries : Dictionary α) {key other : String} (value : α)
    (distinct : other ≠ key) : (entries.insert key value).find? other = entries.find? other := by
  have apart : (other == key) = false := by simpa using distinct
  induction entries with
  | nil => simp [insert, find?, List.lookup_cons, apart]
  | cons entry rest ih =>
      obtain ⟨first, kept⟩ := entry
      simp only [find?, insert] at ih ⊢
      split
      · simp [List.lookup_cons, apart]
      · split
        · next same => simp [List.lookup_cons, apart, ← same]
        · rw [List.lookup_cons, List.lookup_cons, ih]

theorem find?_erase_self (entries : Dictionary α) (key : String) :
    (entries.erase key).find? key = none := by
  unfold find? erase
  induction entries with
  | nil => rfl
  | cons entry rest ih =>
      obtain ⟨first, kept⟩ := entry
      rw [List.filter_cons]
      split
      · next distinct =>
          have apart : (key == first) = false := by simpa using Ne.symm (of_decide_eq_true distinct)
          rw [List.lookup_cons, apart]
          exact ih
      · exact ih

theorem find?_erase_of_ne (entries : Dictionary α) {key other : String} (distinct : other ≠ key) :
    (entries.erase key).find? other = entries.find? other := by
  unfold find? erase
  induction entries with
  | nil => rfl
  | cons entry rest ih =>
      obtain ⟨first, kept⟩ := entry
      rw [List.filter_cons]
      split
      · rw [List.lookup_cons, List.lookup_cons, ih]
      · next same =>
          have apart : (other == first) = false := by
            have : first = key := by simpa using same
            simpa [this] using distinct
          rw [List.lookup_cons, apart]
          exact ih

end Dictionary

end Stencil

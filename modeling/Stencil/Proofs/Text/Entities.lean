import Stencil.Proofs.Text.Escaped
import Stencil.Proofs.Text.Harmless
import Stencil.Text.Search

/-!
# Reading entities back

An escaped text has no markup, and an ampersand only where an entity begins. One pass from the left
that puts a character in place of each entity restores the text, so that different texts are escaped
differently.
-/

namespace Stencil.Text.Html

variable {text rest after : List Char} {c : Char} {entity : String}

/-- The entities and the characters that they stand for. -/
def entities : List (String × Char) :=
  [("&amp;", '&'), ("&lt;", '<'), ("&gt;", '>'), ("&quot;", '"'), ("&#39;", '\'')]

theorem mem_entities_of_entity? (found : entity? c = some entity) : (entity, c) ∈ entities := by
  unfold entity? at found
  split at found
  all_goals cases found
  all_goals decide

theorem escapeChar_of_some (found : entity? c = some entity) : escapeChar c = entity.toList := by
  rw [escapeChar, found]

theorem ne_ampersand_of_none (plain : entity? c = none) : c ≠ '&' := by
  rintro rfl
  cases plain

/-! ## Ampersands -/

/-- An entity has no ampersand but its first character. -/
theorem entity_starts (listed : (entity, c) ∈ entities) :
    ∃ inner, entity.toList = '&' :: inner ∧ '&' ∉ inner := by
  have each : ∀ entry ∈ entities, entry.1.toList.head? = some '&' ∧ '&' ∉ entry.1.toList.tail := by
    decide
  obtain ⟨first, others⟩ := each _ listed
  obtain ⟨inner, whole⟩ := List.head?_eq_some_iff.mp first
  rw [whole] at others
  exact ⟨inner, whole, others⟩

/-- A character that is not in the front part of a text stands behind it. -/
theorem suffix_of_not_mem {front : List Char} (missing : c ∉ front)
    (ends : c :: after <:+ front ++ rest) : c :: after <:+ rest := by
  induction front with
  | nil => exact ends
  | cons first front ih =>
      rw [List.mem_cons, not_or] at missing
      rcases List.suffix_cons_iff.mp ends with same | further
      · exact absurd (List.cons.inj same).1 missing.1
      · exact ih missing.2 further

/-- An ampersand begins the entity of the character that was escaped there. -/
theorem entity_of_ampersand {text : List Char} (ends : '&' :: after <:+ text.flatMap escapeChar) :
    ∃ entry ∈ entities, entry.1.toList <+: '&' :: after := by
  induction text with
  | nil => cases List.suffix_nil.mp ends
  | cons first text ih =>
      rw [List.flatMap_cons] at ends
      cases found : entity? first with
      | none =>
          have other : '&' ∉ [first] :=
            List.not_mem_cons_of_ne_of_not_mem (ne_ampersand_of_none found).symm List.not_mem_nil
          rw [escapeChar_of_none found] at ends
          exact ih (suffix_of_not_mem other ends)
      | some entity =>
          have listed := mem_entities_of_entity? found
          obtain ⟨inner, whole, others⟩ := entity_starts listed
          rw [escapeChar_of_some found, whole] at ends
          rcases List.suffix_cons_iff.mp ends with same | further
          · rw [same]
            refine ⟨_, listed, ?_⟩
            rw [whole]
            exact List.prefix_append ('&' :: inner) _
          · exact ih (suffix_of_not_mem others further)

/-- What stands between tags and quotes: no markup, and no ampersand but that of an entity. -/
structure Escaped (text : List Char) : Prop where
  harmless : Harmless text
  ampersands : ∀ after, '&' :: after <:+ text →
    ∃ entry ∈ entities, entry.1.toList <+: '&' :: after

theorem escaped_escape (text : String) : Escaped (escape text).toList where
  harmless := harmless_escape text
  ampersands after ends := by
    rw [toList_escape] at ends
    exact entity_of_ampersand ends

/-! ## Reading back -/

/-- The character of the entity that a text begins with, and what follows the entity. -/
def readEntity? (text : List Char) : Option (Char × List Char) :=
  entities.findSome? fun (entity, c) => (entity.toList.isPrefixOf? text).map fun rest => (c, rest)

theorem length_of_readEntity? (read : readEntity? text = some (c, rest)) :
    rest.length < text.length := by
  obtain ⟨⟨entity, _⟩, listed, found⟩ := List.exists_of_findSome?_eq_some read
  obtain ⟨_, followed, ⟨⟩⟩ := Option.map_eq_some_iff.mp found
  obtain ⟨inner, whole, -⟩ := entity_starts listed
  rw [← List.append_eq_of_isPrefixOf?_eq_some followed, whole, List.length_append, List.length_cons]
  omega

/-- Puts characters in place of their entities. What was put there is not read again. -/
def unescape (text : List Char) : List Char :=
  match text with
  | [] => []
  | first :: text =>
      match read : readEntity? (first :: text) with
      | some (c, rest) =>
          have := length_of_readEntity? read
          c :: unescape rest
      | none => first :: unescape text
termination_by text.length
decreasing_by
  · exact this
  · exact Nat.lt_succ_self _

theorem readEntity?_entity (listed : (entity, c) ∈ entities) (rest : List Char) :
    readEntity? (entity.toList ++ rest) = some (c, rest) := by
  have each : ∀ entry ∈ entities, readEntity? (entry.1.toList ++ rest) = some (entry.2, rest) := by
    simp only [entities, List.forall_mem_cons]
    exact ⟨rfl, rfl, rfl, rfl, rfl, nofun⟩
  exact each _ listed

theorem readEntity?_of_ne (other : c ≠ '&') (rest : List Char) :
    readEntity? (c :: rest) = none := by
  refine List.findSome?_eq_none_iff.mpr fun ⟨entity, _⟩ listed => ?_
  obtain ⟨inner, whole, -⟩ := entity_starts listed
  dsimp only
  rw [whole, List.isPrefixOf?, beq_false_of_ne (Ne.symm other)]
  rfl

theorem unescape_of_some (read : readEntity? text = some (c, rest)) :
    unescape text = c :: unescape rest := by
  cases text with
  | nil => cases read
  | cons first text =>
      rw [unescape]
      split
      · next read' =>
          cases read.symm.trans read'
          rfl
      · next missed => cases read.symm.trans missed

theorem unescape_of_none (missed : readEntity? (c :: rest) = none) :
    unescape (c :: rest) = c :: unescape rest := by
  rw [unescape]
  split
  · next read => cases missed.symm.trans read
  · rfl

theorem unescape_escapeChar (c : Char) (rest : List Char) :
    unescape (escapeChar c ++ rest) = c :: unescape rest := by
  cases found : entity? c with
  | none =>
      rw [escapeChar_of_none found, List.singleton_append]
      exact unescape_of_none (readEntity?_of_ne (ne_ampersand_of_none found) rest)
  | some entity =>
      rw [escapeChar_of_some found]
      exact unescape_of_some (readEntity?_entity (mem_entities_of_entity? found) rest)

theorem unescape_escape (text : String) : unescape (escape text).toList = text.toList := by
  rw [toList_escape]
  induction text.toList with
  | nil => rw [List.flatMap_nil, unescape]
  | cons c text ih => rw [List.flatMap_cons, unescape_escapeChar, ih]

example : unescape "&amp;lt;".toList = "&lt;".toList := by decide +kernel

theorem escape_inj {text other : String} (same : escape text = escape other) : text = other := by
  have back := unescape_escape text
  rw [same, unescape_escape] at back
  exact (String.toList_inj.mp back).symm

end Stencil.Text.Html

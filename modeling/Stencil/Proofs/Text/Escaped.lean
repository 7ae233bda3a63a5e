import Mathlib.Data.List.Basic
import Stencil.Text.Html
import Stencil.Text.Trim

/-!
# Escaped texts

Trimming a text before it is escaped or afterwards comes to the same. Escaping again a text with an
entity makes it longer, even if the blank characters are not counted, which is how much of a text is
left wherever it is trimmed.
-/

namespace Stencil.Text

open Unicode (isBlank)

variable {text : List Char}

/-! ## Trimming -/

/-- A change of each character that keeps blank ones, and puts no blank one in front of a text. -/
structure StartsAlike (change : Char → List Char) : Prop where
  blank : ∀ c, isBlank c = true → change c = [c]
  other : ∀ c, isBlank c = false → ∃ first rest, change c = first :: rest ∧ isBlank first = false

theorem StartsAlike.dropWhile_flatMap {change : Char → List Char} (starts : StartsAlike change)
    (text : List Char) :
    (text.flatMap change).dropWhile isBlank = (text.dropWhile isBlank).flatMap change := by
  induction text with
  | nil => rfl
  | cons c rest ih =>
      rw [List.flatMap_cons]
      cases blank : isBlank c with
      | true =>
          rw [starts.blank c blank, List.singleton_append, List.dropWhile_cons_of_pos blank,
            List.dropWhile_cons_of_pos blank, ih]
      | false =>
          obtain ⟨first, more, changed, unblank⟩ := starts.other c blank
          rw [List.dropWhile_cons_of_neg (by simp [blank]), List.flatMap_cons, changed,
            List.cons_append, List.dropWhile_cons_of_neg (by simp [unblank])]

theorem trim_flatMap {change : Char → List Char} (starts : StartsAlike change)
    (ends : StartsAlike fun c => (change c).reverse) (text : List Char) :
    trim (text.flatMap change) = (trim text).flatMap change := by
  unfold trim trimEnd trimStart
  rw [starts.dropWhile_flatMap, List.reverse_flatMap, Function.comp_def, ends.dropWhile_flatMap,
    List.reverse_flatMap]
  simp only [Function.comp_def, List.reverse_reverse]

/-- How many characters of a text are not blank. -/
def weight (text : List Char) : Nat :=
  text.countP fun c => !isBlank c

theorem weight_append (first second : List Char) :
    weight (first ++ second) = weight first + weight second :=
  List.countP_append

theorem weight_dropWhile (text : List Char) : weight (text.dropWhile isBlank) = weight text := by
  induction text with
  | nil => rfl
  | cons c rest ih =>
      cases blank : isBlank c with
      | true =>
          rw [List.dropWhile_cons_of_pos blank, ih]
          simp only [weight, List.countP_cons, blank, Bool.not_true, Bool.false_eq_true, if_false,
            Nat.add_zero]
      | false => rw [List.dropWhile_cons_of_neg (by simp [blank])]

theorem weight_trim (text : List Char) : weight (trim text) = weight text := by
  have reversed (text : List Char) : weight text.reverse = weight text := List.countP_reverse
  unfold trim trimEnd trimStart
  rw [reversed, weight_dropWhile, reversed, weight_dropWhile]

theorem mem_dropWhile {c : Char} (unblank : isBlank c = false) :
    c ∈ text.dropWhile isBlank ↔ c ∈ text := by
  induction text with
  | nil => rfl
  | cons first rest ih =>
      cases blank : isBlank first with
      | true =>
          rw [List.dropWhile_cons_of_pos blank, ih, List.mem_cons, or_iff_right]
          rintro rfl
          exact Bool.false_ne_true (unblank.symm.trans blank)
      | false => rw [List.dropWhile_cons_of_neg (by simp [blank])]

theorem mem_trim {c : Char} (unblank : isBlank c = false) : c ∈ trim text ↔ c ∈ text := by
  unfold trim trimEnd trimStart
  rw [List.mem_reverse, mem_dropWhile unblank, List.mem_reverse, mem_dropWhile unblank]

namespace Html

/-! ## Entities -/

/-- Some character of the text has an entity. -/
def Special (text : List Char) : Prop :=
  ∃ c ∈ text, entity? c ≠ none

instance (text : List Char) : Decidable (Special text) :=
  List.decidableBEx (entity? · ≠ none) text

theorem special_append {first second : List Char} :
    Special (first ++ second) ↔ Special first ∨ Special second := by
  simp only [Special, List.mem_append, or_and_right, exists_or]

/-- A character that has an entity is not blank, and neither are the ends of the entity. -/
theorem escapeChar_of_entity? {c : Char} (found : entity? c ≠ none) :
    isBlank c = false ∧ ∃ inner, inner ≠ [] ∧ weight inner = inner.length ∧
      escapeChar c = '&' :: (inner ++ [';']) := by
  unfold escapeChar
  unfold entity? at *
  split at found
  · exact ⟨by decide, "amp".toList, by decide⟩
  · exact ⟨by decide, "lt".toList, by decide⟩
  · exact ⟨by decide, "gt".toList, by decide⟩
  · exact ⟨by decide, "quot".toList, by decide⟩
  · exact ⟨by decide, "#39".toList, by decide⟩
  · exact absurd rfl found

theorem escapeChar_of_none {c : Char} (none : entity? c = none) : escapeChar c = [c] := by
  unfold escapeChar
  rw [none]

theorem entity?_of_isBlank {c : Char} (blank : isBlank c = true) : entity? c = none := by
  by_contra found
  exact Bool.false_ne_true ((escapeChar_of_entity? found).1.symm.trans blank)

theorem startsAlike_escapeChar : StartsAlike escapeChar where
  blank c blank := escapeChar_of_none (entity?_of_isBlank blank)
  other c unblank := by
    cases found : entity? c with
    | none => exact ⟨c, [], escapeChar_of_none found, unblank⟩
    | some entity =>
        obtain ⟨_, inner, _, _, escaped⟩ := escapeChar_of_entity? (found ▸ Option.some_ne_none _)
        exact ⟨'&', inner ++ [';'], escaped, by decide⟩

theorem startsAlike_reverse_escapeChar : StartsAlike fun c => (escapeChar c).reverse where
  blank c blank := by rw [escapeChar_of_none (entity?_of_isBlank blank), List.reverse_singleton]
  other c unblank := by
    cases found : entity? c with
    | none =>
        exact ⟨c, [], by rw [escapeChar_of_none found, List.reverse_singleton], unblank⟩
    | some entity =>
        obtain ⟨_, inner, _, _, escaped⟩ := escapeChar_of_entity? (found ▸ Option.some_ne_none _)
        refine ⟨';', ('&' :: inner).reverse, ?_, by decide⟩
        rw [escaped, ← List.cons_append, List.reverse_concat]

theorem escape_trim (text : String) :
    escape (.ofList (trim text.toList)) = .ofList (trim (escape text).toList) := by
  rw [toList_escape, trim_flatMap startsAlike_escapeChar startsAlike_reverse_escapeChar]
  unfold escape
  rw [String.toList_ofList]

theorem escape_append (first second : String) :
    escape (first ++ second) = escape first ++ escape second := by
  refine String.toList_inj.mp ?_
  simp only [toList_escape, String.toList_append, List.flatMap_append]

/-! ## Escaping again -/

theorem escape_of_not_special {text : String} (plain : ¬ Special text.toList) :
    escape text = text := by
  have each : ∀ c ∈ text.toList, escapeChar c = [c] := by
    intro c inside
    refine escapeChar_of_none ?_
    by_contra found
    exact plain ⟨c, inside, found⟩
  unfold escape
  rw [List.flatMap_congr each, List.flatMap_singleton', String.ofList_toList]

/-- What is left of a special character is special itself. -/
theorem special_escape {text : String} (special : Special text.toList) :
    Special (escape text).toList := by
  obtain ⟨c, inside, found⟩ := special
  obtain ⟨_, inner, _, _, escaped⟩ := escapeChar_of_entity? found
  refine ⟨'&', ?_, by decide⟩
  rw [toList_escape, List.mem_flatMap]
  exact ⟨c, inside, by rw [escaped]; exact List.mem_cons_self ..⟩

theorem special_trim : Special (trim text) ↔ Special text :=
  exists_congr fun _ => and_congr_left fun found => mem_trim (escapeChar_of_entity? found).1

theorem weight_escapeChar (c : Char) :
    weight [c] ≤ weight (escapeChar c) ∧
      (entity? c ≠ none → weight [c] < weight (escapeChar c)) := by
  cases found : entity? c with
  | none =>
      rw [escapeChar_of_none found]
      exact ⟨Nat.le_refl _, absurd rfl⟩
  | some entity =>
      obtain ⟨_, inner, some, whole, escaped⟩ :=
        escapeChar_of_entity? (found ▸ Option.some_ne_none _)
      have single : weight [c] ≤ 1 := List.countP_le_length
      have ends : weight ['&'] = 1 ∧ weight [';'] = 1 := by decide
      have length := List.length_pos_iff.mpr some
      have heavy : weight (escapeChar c) = weight ['&'] + (weight inner + weight [';']) := by
        rw [escaped, ← weight_append, ← weight_append]
        rfl
      omega

theorem weight_flatMap_escapeChar (text : List Char) :
    weight text ≤ weight (text.flatMap escapeChar) ∧
      (Special text → weight text < weight (text.flatMap escapeChar)) := by
  induction text with
  | nil => exact ⟨Nat.le_refl _, fun ⟨_, inside, _⟩ => absurd inside List.not_mem_nil⟩
  | cons c rest ih =>
      obtain ⟨no_less, more⟩ := weight_escapeChar c
      have special : Special (c :: rest) ↔ entity? c ≠ none ∨ Special rest := by
        simp only [Special, List.exists_mem_cons_iff]
      rw [special, List.flatMap_cons, ← List.singleton_append, weight_append, weight_append]
      refine ⟨Nat.add_le_add no_less ih.1, ?_⟩
      rintro (first | later)
      · exact Nat.add_lt_add_of_lt_of_le (more first) ih.1
      · exact Nat.add_lt_add_of_le_of_lt no_less (ih.2 later)

theorem weight_le_escape (text : String) : weight text.toList ≤ weight (escape text).toList := by
  rw [toList_escape]
  exact (weight_flatMap_escapeChar _).1

theorem weight_lt_escape {text : String} (special : Special text.toList) :
    weight text.toList < weight (escape text).toList := by
  rw [toList_escape]
  exact (weight_flatMap_escapeChar _).2 special

/-- The text is covered by what another one is escaped to, at least once and part by part. -/
structure Covers (covered text : String) : Prop where
  heavy : weight (escape text).toList ≤ weight covered.toList
  special : Special text.toList → Special covered.toList

/-- The text is covered, and escaped more than once if anything in it has an entity. -/
structure Exceeds (covered text : String) : Prop extends Covers covered text where
  heavier : Special text.toList → weight (escape text).toList < weight covered.toList

variable {covered covered' text text' : String}

theorem covers_escape (text : String) : Covers (escape text) text :=
  ⟨Nat.le_refl _, special_escape⟩

theorem Covers.escape (covers : Covers covered text) : Exceeds (escape covered) text where
  heavy := Nat.le_trans covers.heavy (weight_le_escape covered)
  special special := special_escape (covers.special special)
  heavier special :=
    Nat.lt_of_le_of_lt covers.heavy (weight_lt_escape (covers.special special))

theorem Covers.append (covers : Covers covered text) (covers' : Covers covered' text') :
    Covers (covered ++ covered') (text ++ text') where
  heavy := by
    simp only [escape_append, String.toList_append, weight_append]
    exact Nat.add_le_add covers.heavy covers'.heavy
  special := by
    simp only [String.toList_append, special_append]
    exact Or.imp covers.special covers'.special

theorem weight_escape_trim (text : String) :
    weight (Html.escape (.ofList (trim text.toList))).toList =
      weight (Html.escape text).toList := by
  rw [escape_trim, String.toList_ofList, weight_trim]

theorem Covers.trim (covers : Covers covered text) :
    Covers (.ofList (trim covered.toList)) (.ofList (trim text.toList)) where
  heavy := by
    rw [weight_escape_trim, String.toList_ofList, weight_trim]
    exact covers.heavy
  special := by
    simp only [String.toList_ofList, special_trim]
    exact covers.special

theorem Exceeds.trim (exceeds : Exceeds covered text) :
    Exceeds (.ofList (trim covered.toList)) (.ofList (trim text.toList)) where
  toCovers := exceeds.toCovers.trim
  heavier := by
    rw [weight_escape_trim, String.toList_ofList, String.toList_ofList, weight_trim, special_trim]
    exact exceeds.heavier

end Html

end Stencil.Text

import Stencil.Proofs.Text.Search

/-!
# Texts in pieces

A text that is split at a separator is put together again by the same separator. The pieces do not
contain it, and they are one more than its occurrences, read from the left without an overlap.
-/

namespace Stencil.Text

variable {separator target text before rest : List Char}

/-! ## Occurrences -/

/-- How often a target occurs in a text. The first characters of the text are passed over, as many
as still belong to the occurrence before. -/
def occurrencesBehind (target : List Char) : (passed : Nat) → (text : List Char) → Nat
  | _, [] => 0
  | passed + 1, _ :: text => occurrencesBehind target passed text
  | 0, first :: text =>
      if target.isPrefixOf (first :: text) then
        occurrencesBehind target (target.length - 1) text + 1
      else occurrencesBehind target 0 text

/-- How often a target occurs in a text, from left to right, none over another. -/
def occurrences (target text : List Char) : Nat :=
  occurrencesBehind target 0 text

theorem occurrencesBehind_append (target passed text : List Char) :
    occurrencesBehind target passed.length (passed ++ text) = occurrences target text := by
  induction passed with
  | nil => rfl
  | cons first passed ih => exact ih

theorem occurrences_cons_of_missed {first : Char} (missed : ¬ target <+: first :: text) :
    occurrences target (first :: text) = occurrences target text := by
  rw [← List.isPrefixOf_iff_prefix] at missed
  exact if_neg missed

theorem occurrences_append_target (nonempty : target ≠ []) (text : List Char) :
    occurrences target (target ++ text) = occurrences target text + 1 := by
  obtain ⟨first, tail, rfl⟩ := List.exists_cons_of_ne_nil nonempty
  have starts : (first :: tail).isPrefixOf (first :: tail ++ text) = true :=
    List.isPrefixOf_iff_prefix.mpr (List.prefix_append _ _)
  calc occurrences (first :: tail) (first :: tail ++ text)
    _ = occurrencesBehind (first :: tail) tail.length (tail ++ text) + 1 := if_pos starts
    _ = occurrences (first :: tail) text + 1 := by rw [occurrencesBehind_append]

/-- What stands before the first occurrence does not count. -/
theorem occurrences_append_of_le
    (late : ∀ ahead behind, before ++ text = ahead ++ target ++ behind →
      before.length ≤ ahead.length) :
    occurrences target (before ++ text) = occurrences target text := by
  induction before with
  | nil => rfl
  | cons first before ih =>
      have missed : ¬ target <+: first :: (before ++ text) := by
        rintro ⟨behind, starts⟩
        exact absurd (late [] behind starts.symm) (Nat.not_succ_le_zero _)
      rw [List.cons_append, occurrences_cons_of_missed missed]
      refine ih fun ahead behind occurs => ?_
      exact Nat.le_of_succ_le_succ (late (first :: ahead) behind (congrArg (first :: ·) occurs))

theorem occurrences_eq_zero (missed : ¬ target <:+: text) : occurrences target text = 0 := by
  induction text with
  | nil => rfl
  | cons first text ih =>
      rw [occurrences_cons_of_missed fun starts => missed starts.isInfix]
      exact ih fun inside => missed (inside.trans (List.suffix_cons first text).isInfix)

/-! ## Pieces -/

section

variable (nonempty : separator ≠ [])

theorem pieces_of_cut?_eq_none (missed : cut? separator text = none) :
    pieces separator nonempty text = [text] := by
  rw [pieces]
  split
  · rfl
  · next found => cases missed.symm.trans found

theorem pieces_of_cut? (found : cut? separator text = some (before, rest)) :
    pieces separator nonempty text = before :: pieces separator nonempty rest := by
  rw [pieces]
  split
  · next missed => cases missed.symm.trans found
  · next found' =>
      cases found.symm.trans found'
      rfl

theorem pieces_ne_nil : pieces separator nonempty text ≠ [] := by
  cases found : cut? separator text with
  | none => simp [pieces_of_cut?_eq_none nonempty found]
  | some parts => simp [pieces_of_cut? nonempty found]

theorem intercalate_pieces (text : List Char) :
    separator.intercalate (pieces separator nonempty text) = text := by
  induction text using pieces.induct separator nonempty with
  | case1 text missed => rw [pieces_of_cut?_eq_none nonempty missed, List.intercalate_singleton]
  | case2 text before rest found _ ih =>
      rw [pieces_of_cut? nonempty found, List.intercalate_cons_of_ne_nil (pieces_ne_nil nonempty),
        ih, eq_append_of_cut? found]

theorem not_infix_of_mem_pieces {text : List Char} :
    ∀ piece ∈ pieces separator nonempty text, ¬ separator <:+: piece := by
  induction text using pieces.induct separator nonempty with
  | case1 text missed =>
      rw [pieces_of_cut?_eq_none nonempty missed]
      exact List.forall_mem_singleton.mpr (not_infix_of_cut?_eq_none missed)
  | case2 text before rest found _ ih =>
      rw [pieces_of_cut? nonempty found]
      exact List.forall_mem_cons.mpr ⟨not_infix_of_cut? found nonempty List.prefix_rfl, ih⟩

/-- The first cut is made at the first occurrence. -/
theorem length_pieces (text : List Char) :
    (pieces separator nonempty text).length = occurrences separator text + 1 := by
  induction text using pieces.induct separator nonempty with
  | case1 text missed =>
      rw [pieces_of_cut?_eq_none nonempty missed,
        occurrences_eq_zero (not_infix_of_cut?_eq_none missed)]
      rfl
  | case2 text before rest found _ ih =>
      have whole : text = before ++ (separator ++ rest) := by
        rw [eq_append_of_cut? found, List.append_assoc]
      have late : ∀ ahead behind, before ++ (separator ++ rest) = ahead ++ separator ++ behind →
          before.length ≤ ahead.length := by
        rw [← whole]
        exact fun ahead behind => length_le_of_cut? found
      rw [pieces_of_cut? nonempty found, List.length_cons, ih, whole,
        occurrences_append_of_le late, occurrences_append_target nonempty]

end

/-! ## Splitting -/

/-- The characters of a text one by one, put together with nothing between them. -/
theorem intercalate_nil_characters (text : List Char) :
    List.intercalate [] (text.map ([·]) ++ [[]]) = text := by
  induction text with
  | nil => rfl
  | cons first text ih =>
      rw [List.map_cons, List.cons_append, List.intercalate_cons_of_ne_nil (by simp), ih]
      rfl

theorem intercalate_split (separator text : List Char) :
    separator.intercalate (split separator text) = text := by
  unfold split
  split
  · next empty =>
      subst empty
      rw [List.cons_append, List.intercalate_cons_of_ne_nil (by simp), intercalate_nil_characters]
      rfl
  · next nonempty => exact intercalate_pieces nonempty text

theorem not_infix_of_mem_split (nonempty : separator ≠ []) :
    ∀ piece ∈ split separator text, ¬ separator <:+: piece := by
  rw [split, dif_neg nonempty]
  exact not_infix_of_mem_pieces nonempty

theorem length_split (nonempty : separator ≠ []) (text : List Char) :
    (split separator text).length = occurrences separator text + 1 := by
  rw [split, dif_neg nonempty]
  exact length_pieces nonempty text

end Stencil.Text

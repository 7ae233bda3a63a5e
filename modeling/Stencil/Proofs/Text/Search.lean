import Stencil.Text.Search

/-!
# First occurrences

Cutting a text at a target cuts it at the first occurrence, and fails only where there is none.
-/

namespace Stencil.Text

variable {target text before rest : List Char}

/-- No occurrence starts before the one at which a text is cut. -/
theorem length_le_of_cut? (found : cut? target text = some (before, rest))
    {ahead behind : List Char} (occurs : text = ahead ++ target ++ behind) :
    before.length ≤ ahead.length := by
  induction text generalizing before ahead with
  | nil =>
      have total := length_of_cut? found
      simp only [List.length_nil] at total
      omega
  | cons first text ih =>
      simp only [cut?] at found
      split at found
      · obtain ⟨⟨⟩⟩ := found
        exact Nat.zero_le _
      · next missed =>
          obtain ⟨⟨inner, tail⟩, later, ⟨⟩⟩ := Option.map_eq_some_iff.mp found
          cases ahead with
          | nil =>
              rw [List.isPrefixOf_iff_prefix] at missed
              exact absurd ⟨behind, occurs.symm⟩ missed
          | cons _ ahead => exact Nat.succ_le_succ (ih later (List.cons.inj occurs).2)

theorem not_occurs_of_cut?_eq_none (missed : cut? target text = none) (ahead behind : List Char) :
    text ≠ ahead ++ target ++ behind := by
  intro occurs
  induction text generalizing ahead with
  | nil =>
      obtain ⟨rfl, rfl, rfl⟩ : ahead = [] ∧ target = [] ∧ behind = [] := by simpa using occurs.symm
      cases missed
  | cons first text ih =>
      simp only [cut?] at missed
      split at missed
      · cases missed
      · next unmatched =>
          cases ahead with
          | nil =>
              rw [List.isPrefixOf_iff_prefix] at unmatched
              exact absurd ⟨behind, occurs.symm⟩ unmatched
          | cons _ ahead =>
              exact ih (Option.map_eq_none_iff.mp missed) ahead (List.cons.inj occurs).2

/-- What stands before the first occurrence of a target has none in it. -/
theorem not_infix_of_cut? (found : cut? target text = some (before, rest))
    (nonempty : target ≠ []) {part : List Char} (part_of : part <+: before) : ¬ target <:+: part := by
  rintro ⟨ahead, behind, rfl⟩
  obtain ⟨further, rfl⟩ := part_of
  have occurs : text = ahead ++ target ++ (behind ++ further ++ target ++ rest) := by
    rw [eq_append_of_cut? found]
    simp
  have short := length_le_of_cut? found occurs
  have := List.length_pos_iff.mpr nonempty
  simp only [List.length_append] at short
  omega

theorem not_infix_of_cut?_eq_none (missed : cut? target text = none) : ¬ target <:+: text := by
  rintro ⟨ahead, behind, occurs⟩
  exact not_occurs_of_cut?_eq_none missed ahead behind occurs.symm

theorem cut?_append (target rest : List Char) (nonempty : target ≠ []) :
    cut? target (target ++ rest) = some ([], rest) := by
  obtain ⟨first, tail, rfl⟩ := List.exists_cons_of_ne_nil nonempty
  have starts : (first :: tail).isPrefixOf (first :: tail ++ rest) = true :=
    List.isPrefixOf_iff_prefix.mpr (List.prefix_append _ _)
  rw [List.cons_append, cut?, ← List.cons_append, if_pos starts, List.drop_left]

/-- What a text begins with ends before a character that it does not have. -/
theorem prefix_of_append_cons {c : Char} (missing : c ∉ target)
    (starts : target <+: before ++ c :: rest) : target <+: before := by
  rcases List.prefix_or_prefix_of_prefix starts (List.prefix_append before (c :: rest)) with
    inside | ⟨more, rfl⟩
  · exact inside
  · cases more with
    | nil => exact ⟨[], by simp⟩
    | cons first more =>
        obtain ⟨tail, same⟩ := starts
        rw [List.append_assoc] at same
        obtain ⟨rfl, -⟩ := List.cons.inj (List.append_cancel_left same)
        exact absurd (by simp) missing

end Stencil.Text

/-!
# Finding a text in a text

Occurrences are looked for from the left. A text is cut at the first one, or split at every one
that does not overlap the one before it.
-/

namespace Stencil.Text

/-- The parts of a text before and after the first occurrence of `target`. -/
def cut? (target : List Char) : List Char → Option (List Char × List Char)
  | [] => if target.isPrefixOf [] then some ([], []) else none
  | first :: text =>
      if target.isPrefixOf (first :: text) then some ([], (first :: text).drop target.length)
      else (cut? target text).map fun (before, rest) => (first :: before, rest)

theorem eq_append_of_cut? {target text before rest : List Char}
    (found : cut? target text = some (before, rest)) : text = before ++ target ++ rest := by
  induction text generalizing before with
  | nil =>
      simp only [cut?] at found
      split at found
      · next starts =>
          cases found
          simpa using List.prefix_nil.mp (List.isPrefixOf_iff_prefix.mp starts)
      · cases found
  | cons first text ih =>
      simp only [cut?] at found
      split at found
      · next starts =>
          cases found
          exact (List.prefix_iff_eq_append.mp (List.isPrefixOf_iff_prefix.mp starts)).symm
      · simp only [Option.map_eq_some_iff, Prod.mk.injEq] at found
        obtain ⟨⟨inner, tail⟩, matched, rfl, rfl⟩ := found
        simp [ih matched]

theorem length_of_cut? {target text before rest : List Char}
    (found : cut? target text = some (before, rest)) :
    before.length + target.length + rest.length = text.length := by
  simp only [eq_append_of_cut? found, List.length_append]

def contains (target text : List Char) : Bool :=
  (cut? target text).isSome

/-- The pieces of a text between the occurrences of a separator that is not empty. -/
def pieces (separator : List Char) (nonempty : separator ≠ []) (text : List Char) :
    List (List Char) :=
  match found : cut? separator text with
  | none => [text]
  | some (before, rest) =>
      have : rest.length < text.length := by
        have total := length_of_cut? found
        have := List.length_pos_iff.mpr nonempty
        omega
      before :: pieces separator nonempty rest
termination_by text.length

/-- Splits at every occurrence. The empty separator stands before, between and after the
characters. -/
def split (separator text : List Char) : List (List Char) :=
  if empty : separator = [] then [] :: text.map ([·]) ++ [[]] else pieces separator empty text

end Stencil.Text

/-!
# Places in a template

A place is an offset in bytes of UTF-8 and a line counted from one.
-/

namespace Stencil

structure Place where
  offset : Nat
  line : Nat
deriving Repr, DecidableEq, Inhabited

namespace Place

def start : Place := ⟨0, 1⟩

/-- The place after a character. -/
def step (place : Place) (c : Char) : Place where
  offset := place.offset + c.utf8Size
  line := if c = '\n' then place.line + 1 else place.line

/-- The place after some text. -/
def after (place : Place) (text : List Char) : Place :=
  text.foldl step place

theorem after_append (place : Place) (first second : List Char) :
    place.after (first ++ second) = (place.after first).after second := by
  simp [after]

theorem offset_le_after (place : Place) (text : List Char) :
    place.offset ≤ (place.after text).offset := by
  induction text generalizing place with
  | nil => exact Nat.le_refl _
  | cons first rest ih => exact Nat.le_trans (Nat.le_add_right _ _) (ih (place.step first))

theorem line_after (place : Place) (text : List Char) :
    (place.after text).line = place.line + text.count '\n' := by
  induction text generalizing place with
  | nil => rfl
  | cons first rest ih =>
      show ((place.step first).after rest).line = _
      rw [ih, List.count_cons]
      by_cases newline : first = '\n'
      · simp [step, newline]
        omega
      · simp [step, newline]

end Place

end Stencil

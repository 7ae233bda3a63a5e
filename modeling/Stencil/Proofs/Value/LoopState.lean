import Stencil.Library

/-!
# The state of a loop

What templates read of the state of a loop at one of its elements: where the element stands in the
list, and which elements stand beside it.
-/

namespace Stencil

namespace Library

/-- A value whose fields tell of an element of a list where it stands. -/
structure ShowsLoop (library : Library) (value : Value) (place : Nat) (items : List Value) :
    Prop where
  index : library.fetchField value "index" = .ok (.ofNat place)
  count : library.fetchField value "count" = .ok (.ofNat (place + 1))
  size : library.fetchField value "size" = .ok (.ofNat items.length)
  first : library.fetchField value "is_first" = .ok (.bool (place == 0))
  last : library.fetchField value "is_last" = .ok (.bool (place + 1 == items.length))
  /-- The element before, or nil. -/
  previous : library.fetchField value "peek_prev" =
    .ok (if place = 0 then .nil else items[place - 1]?.getD .nil)
  /-- The element behind, or nil. -/
  next : library.fetchField value "peek_next" = .ok (items[place + 1]?.getD .nil)

variable (library : Library) (identity : Identity) (place : Nat) (items : List Value)

/-- A field of a loop hides nothing: it is found under its own name. -/
theorem fetchField_loop {name : String} {value : Value} {size : Nat} {previous next : Value}
    (found : Object.loopField place size previous next name = some value) :
    library.fetchField (.object identity (.loop place size previous next)) name = .ok value := by
  rw [fetchField, Object.lookup?, Object.field?, found, Option.some_or, Option.getD_some]

theorem showsLoop_loopAt :
    library.ShowsLoop (.object identity (Object.loopAt place items)) place items where
  index := library.fetchField_loop identity place rfl
  count := library.fetchField_loop identity place rfl
  size := library.fetchField_loop identity place rfl
  first := library.fetchField_loop identity place rfl
  last := library.fetchField_loop identity place rfl
  previous := library.fetchField_loop identity place rfl
  next := library.fetchField_loop identity place rfl

end Library

end Stencil

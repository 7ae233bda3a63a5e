import Stencil.Template.Scope

/-!
# Slots of frames

Which slots a frame has handed out to variables that can be seen, and how a frame may change while
a block is parsed: slots are handed out in increasing order, and the scopes around stay.
-/

namespace Stencil.Template.Frame

variable {frame next : Frame} {name : String} {slot : Nat}

/-- The slots of the variables that can be seen. -/
def Sees (frame : Frame) (slot : Nat) : Prop :=
  ∃ scope ∈ frame.scope :: frame.outer, ∃ name, (name, slot) ∈ scope

/-- Slots that can be seen were handed out. -/
def Within (frame : Frame) : Prop :=
  ∀ slot, frame.Sees slot → slot < frame.nextSlot

/-- A slot that what follows in the frame may write: one of a variable, or one still to be handed
out. -/
def Open (frame : Frame) (slot : Nat) : Prop :=
  frame.Sees slot ∨ frame.nextSlot ≤ slot

/-- What becomes of a frame while a block is parsed. -/
structure Grows (frame next : Frame) : Prop where
  outer : next.outer = frame.outer
  handed : frame.nextSlot ≤ next.nextSlot
  sees : ∀ slot, next.Sees slot → frame.Open slot
  within : frame.Within → next.Within

theorem Grows.refl (frame : Frame) : Grows frame frame :=
  ⟨rfl, Nat.le_refl _, fun _ => .inl, id⟩

theorem Grows.open (grows : Grows frame next) (seen : next.Open slot) : frame.Open slot := by
  obtain seen | later := seen
  · exact grows.sees slot seen
  · exact .inr (Nat.le_trans grows.handed later)

theorem Grows.trans {last : Frame} (grows : Grows frame next) (grows' : Grows next last) :
    Grows frame last where
  outer := grows'.outer.trans grows.outer
  handed := Nat.le_trans grows.handed grows'.handed
  sees slot seen := grows.open (grows'.sees slot seen)
  within handed := grows'.within (grows.within handed)

theorem within_empty : empty.Within := by
  rintro slot ⟨scope, inside, name, found⟩
  obtain rfl := List.mem_singleton.mp inside
  cases found

theorem grows_declare (frame : Frame) (name : String) : Grows frame (frame.declare name).2 := by
  have sees (slot : Nat) (seen : (frame.declare name).2.Sees slot) :
      frame.Sees slot ∨ slot = frame.nextSlot := by
    obtain ⟨scope, inside, other, found⟩ := seen
    obtain rfl | inside := List.mem_cons.mp inside
    · obtain ⟨⟨⟩⟩ | found := List.mem_cons.mp found
      · exact .inr rfl
      · exact .inl ⟨_, List.mem_cons_self, other, found⟩
    · exact .inl ⟨scope, List.mem_cons_of_mem _ inside, other, found⟩
  refine ⟨rfl, Nat.le_succ _, ?_, ?_⟩
  · intro slot seen
    obtain seen | rfl := sees slot seen
    · exact .inl seen
    · exact .inr (Nat.le_refl _)
  · intro within slot seen
    obtain seen | rfl := sees slot seen
    · exact Nat.lt_succ_of_lt (within slot seen)
    · exact Nat.lt_succ_self _

theorem open_declare (frame : Frame) (name : String) : frame.Open (frame.declare name).1 :=
  .inr (Nat.le_refl _)

theorem mem_of_lookup {scope : Scope} (found : scope.lookup name = some slot) :
    (name, slot) ∈ scope := by
  obtain ⟨before, after, rfl, _⟩ := List.lookup_eq_some_iff.mp found
  exact List.mem_append_right before List.mem_cons_self

theorem grows_assignable (frame : Frame) (name : String) :
    Grows frame (frame.assignable name).2 ∧ frame.Open (frame.assignable name).1 := by
  unfold assignable
  split
  · next slot found =>
      refine ⟨.refl frame, .inl ?_⟩
      obtain ⟨scope, inside, looked⟩ := List.exists_of_findSome?_eq_some found
      exact ⟨scope, inside, name, mem_of_lookup looked⟩
  · exact ⟨grows_declare frame name, open_declare frame name⟩

theorem grows_settable (frame : Frame) (name : String) :
    Grows frame (frame.settable name).2 ∧ frame.Open (frame.settable name).1 := by
  unfold settable
  split
  · next slot found =>
      exact ⟨.refl frame, .inl ⟨_, List.mem_cons_self, name, mem_of_lookup found⟩⟩
  · exact ⟨grows_declare frame name, open_declare frame name⟩

/-! ## Loops -/

/-- The body of a loop over a list sees the element and what is seen outside. -/
theorem sees_enterFor {element : String} (seen : (frame.enterFor element).2.Sees slot) :
    slot = frame.nextSlot ∨ frame.Sees slot := by
  obtain ⟨scope, inside, other, found⟩ := seen
  obtain rfl | inside := List.mem_cons.mp inside
  · obtain ⟨⟨⟩⟩ := List.mem_singleton.mp found
    exact .inl rfl
  · exact .inr ⟨scope, inside, other, found⟩

theorem within_enterFor (element : String) (within : frame.Within) :
    (frame.enterFor element).2.Within := by
  intro slot seen
  show slot < frame.nextSlot + 3
  obtain rfl | seen := sees_enterFor seen
  · omega
  · have := within slot seen
    omega

/-- The body of a loop over a list may not write the slots of the index and the list. -/
theorem open_enterFor {element : String} (within : frame.Within)
    (opened : (frame.enterFor element).2.Open slot) :
    frame.Open slot ∧ slot ≠ frame.nextSlot + 1 ∧ slot ≠ frame.nextSlot + 2 := by
  obtain seen | later := opened
  · obtain rfl | seen := sees_enterFor seen
    · exact ⟨.inr (Nat.le_refl _), by omega, by omega⟩
    · have := within slot seen
      exact ⟨.inl seen, by omega, by omega⟩
  · have : frame.nextSlot + 3 ≤ slot := later
    exact ⟨.inr (by omega), by omega, by omega⟩

theorem sees_enterWhile (seen : frame.enterWhile.2.Sees slot) : frame.Sees slot := by
  obtain ⟨scope, inside, other, found⟩ := seen
  obtain rfl | inside := List.mem_cons.mp inside
  · cases found
  · exact ⟨scope, inside, other, found⟩

theorem within_enterWhile (within : frame.Within) : frame.enterWhile.2.Within :=
  fun slot seen => Nat.lt_succ_of_lt (within slot (sees_enterWhile seen))

/-- The body of a conditional loop may not write the slot of the count. -/
theorem open_enterWhile (within : frame.Within) (opened : frame.enterWhile.2.Open slot) :
    frame.Open slot ∧ slot ≠ frame.nextSlot := by
  obtain seen | later := opened
  · have := within slot (sees_enterWhile seen)
    exact ⟨.inl (sees_enterWhile seen), by omega⟩
  · have : frame.nextSlot + 1 ≤ slot := later
    exact ⟨.inr (by omega), by omega⟩

/-- Behind a loop the scope around it is back. -/
theorem grows_leaveScope {inner : Frame} (entered : inner.outer = frame.scope :: frame.outer)
    (handed : frame.nextSlot ≤ inner.nextSlot) : Grows frame inner.leaveScope := by
  have sees (slot : Nat) (seen : inner.leaveScope.Sees slot) : frame.Sees slot := by
    obtain ⟨scope, inside, found⟩ := seen
    refine ⟨scope, ?_, found⟩
    rw [leaveScope, entered] at inside
    exact inside
  refine ⟨?_, handed, fun slot seen => .inl (sees slot seen), ?_⟩
  · rw [leaveScope, entered]
    rfl
  · exact fun within slot seen => Nat.lt_of_lt_of_le (within slot (sees slot seen)) handed

theorem grows_leaveFor {inner : Frame} (entered : inner.outer = frame.scope :: frame.outer)
    (handed : frame.nextSlot ≤ inner.nextSlot) : Grows frame inner.leaveFor := by
  have grows := grows_leaveScope entered handed
  exact ⟨grows.outer, grows.handed, grows.sees, grows.within⟩

theorem within_ofParameters (parameters : List String) : (ofParameters parameters).Within := by
  suffices all : ∀ frame : Frame, frame.Within →
      (parameters.foldl (fun frame name => (frame.declare name).2) frame).Within from
    all empty within_empty
  induction parameters with
  | nil => exact fun _ => id
  | cons name rest ih => exact fun frame within => ih _ ((grows_declare frame name).within within)

end Stencil.Template.Frame

import Stencil.Machine.Step

/-!
# Slots

Where slots are among those of all activations, and what writing one of them changes. Slots that are
small enough to be those of compiled code are never mistaken for one another.
-/

namespace Stencil

namespace Op

/-- The slots that an instruction may read or write. -/
def slots : Op → List Nat
  | loadLocal slot | saveLocal slot | loopGuard slot _ => [slot]
  | loopState slot | forStart slot | forNext slot _ _ => [slot, slot + 1, slot + 2]
  | _ => []

/-- The slots that an instruction may write. -/
def writes : Op → List Nat
  | saveLocal slot | loopGuard slot _ => [slot]
  | forStart slot => [slot, slot + 1, slot + 2]
  | forNext slot _ _ => [slot, slot + 1]
  | _ => []

theorem mem_slots_of_mem_writes {op : Op} {slot : Nat} (written : slot ∈ op.writes) :
    slot ∈ op.slots := by
  cases op with
  | forNext other max exit => exact List.mem_append_left [other + 2] written
  | saveLocal | loopGuard | forStart => exact written
  | _ => cases written

/-- All slots of the instruction are so small that their places do not wrap around. -/
def Narrow (op : Op) : Prop :=
  ∀ slot ∈ op.slots, slot < 0x8000000000000000

end Op

namespace Machine

/-! ## Places -/

theorem slotAt_of_lt {slot : Nat} (base : Nat) (small : slot < 0x8000000000000000) :
    slotAt base slot = base + slot :=
  if_pos small

theorem slotAt_ne {base slot other : Nat} (small : slot < 0x8000000000000000)
    (small' : other < 0x8000000000000000) (apart : other ≠ slot) :
    slotAt base other ≠ slotAt base slot := by
  rw [slotAt_of_lt _ small, slotAt_of_lt _ small']
  omega

/-- The place of a slot is a sum of machine words, as long as there are fewer slots than half of the
words. -/
theorem slotAt_eq_toNat {base slot : Nat} (short : base < 0x8000000000000000)
    (word : slot < UInt64.size) :
    slotAt base slot = (UInt64.ofNat base + UInt64.ofNat slot).toNat := by
  simp only [UInt64.size] at word
  rw [UInt64.toNat_add, UInt64.toNat_ofNat', UInt64.toNat_ofNat', slotAt]
  split
  · omega
  · omega

/-! ## Writing -/

section

variable {slots : List Value} {place other : Nat}

theorem setSlot_other (value : Value) (apart : other ≠ place) :
    ((setSlot slots place value)[other]?).getD .nil = (slots[other]?).getD .nil := by
  unfold setSlot
  split
  · rw [List.getElem?_set_ne apart.symm]
  · next outside =>
      by_cases inside : other < slots.length
      · rw [List.append_assoc, List.getElem?_append_left inside]
      · have reach : (slots ++ List.replicate (place - slots.length) Value.nil).length = place := by
          rw [List.length_append, List.length_replicate]
          omega
        rw [List.getElem?_eq_none (Nat.not_lt.mp inside)]
        by_cases before : other < place
        · rw [List.getElem?_append_left (by omega), List.getElem?_append_right (by omega),
            List.getElem?_replicate, if_pos (by omega)]
          rfl
        · rw [List.getElem?_eq_none (by simp; omega)]

theorem length_le_setSlot (slots : List Value) (place : Nat) (value : Value) :
    slots.length ≤ (setSlot slots place value).length := by
  unfold setSlot
  split
  · exact Nat.le_of_eq List.length_set.symm
  · simp only [List.length_append]
    omega

/-- Slots that lie above others are written as if they were alone. -/
theorem setSlot_append (below slots : List Value) (place : Nat) (value : Value) :
    setSlot (below ++ slots) (below.length + place) value =
      below ++ setSlot slots place value := by
  unfold setSlot
  rw [List.length_append]
  split
  · next inside =>
      rw [if_pos (Nat.lt_of_add_lt_add_left inside),
        List.set_append_right _ _ (Nat.le_add_right _ _), Nat.add_sub_cancel_left]
  · next outside =>
      rw [if_neg (fun inside => outside (Nat.add_lt_add_left inside _)), Nat.add_sub_add_left]
      simp only [List.append_assoc]

end

namespace State

variable {σ : Type} {state other : State σ} {slot : Nat}

/-- What is at a place among the slots of all activations. -/
def valueAt (state : State σ) (place : Nat) : Value :=
  state.slots[place]?.getD .nil

theorem load_save_self (state : State σ) (slot : Nat) (value : Value) :
    (state.save slot value).load slot = value :=
  congrArg (·.getD .nil) (getElem?_setSlot_self state.slots _ value)

theorem load_save_other (state : State σ) {slot other : Nat} (value : Value)
    (apart : slotAt state.current.base other ≠ slotAt state.current.base slot) :
    (state.save slot value).load other = state.load other :=
  setSlot_other value apart

theorem items_of_load (same : other.load slot = state.load slot) :
    other.items slot = state.items slot := by
  unfold items
  rw [same]

theorem items_save_self (state : State σ) (slot : Nat) (items : List Value) :
    (state.save slot (.list items)).items slot = items := by
  rw [State.items, State.load_save_self]

end State

end Machine

end Stencil

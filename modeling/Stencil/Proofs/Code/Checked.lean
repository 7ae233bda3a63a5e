import Stencil.Code.Check
import Stencil.Proofs.Results

/-!
# Checked code

What the check of a stream means: the stream has a last instruction, which ends it, and each of its
jumps reaches an instruction of the stream.
-/

namespace Stencil

/-- Each jump of a piece of a stream reaches one of the first instructions of the stream. -/
def JumpsBelow (size start : Nat) (ops : List Op) : Prop :=
  ∀ (place : Nat) (op : Op) (offset : Int), ops[place]? = some op → op.jump? = some offset →
    ∃ target, jumpTarget? (start + place) offset = some target ∧ target < size

/-- A stream that a run cannot leave but by its end. -/
structure Contained (ops : List Op) : Prop where
  halts : ops.getLast? = some .halt
  jumps : JumpsBelow ops.length 0 ops

theorem jumpsBelow_cons {size start : Nat} {first : Op} {rest : List Op} :
    JumpsBelow size start (first :: rest) ↔
      (∀ offset, first.jump? = some offset →
        ∃ target, jumpTarget? start offset = some target ∧ target < size) ∧
      JumpsBelow size (start + 1) rest := by
  constructor
  · intro inside
    constructor
    · exact fun offset jumps => inside 0 first offset rfl jumps
    · intro place op offset found jumps
      rw [Nat.add_assoc, Nat.add_comm 1 place]
      exact inside (place + 1) op offset found jumps
  · rintro ⟨here, others⟩ place op offset found jumps
    cases place with
    | zero =>
        cases found
        exact here offset jumps
    | succ place =>
        rw [← Nat.add_assoc, Nat.add_right_comm]
        exact others place op offset found jumps

theorem checkJumps_eq_ok {stream : String} {size start : Nat} {ops : List Op} :
    checkJumps stream size start ops = .ok () ↔ JumpsBelow size start ops := by
  induction ops generalizing start with
  | nil =>
      constructor
      · intro _ place op offset found
        cases found
      · exact fun _ => rfl
  | cons first rest ih =>
      rw [jumpsBelow_cons, checkJumps]
      split
      · next still => simp [ih, still]
      · next offset jumps =>
          simp only [jumps, Option.some.injEq, forall_eq', Option.any_eq_true, decide_eq_true_eq]
          split
          · next inside => rw [ih, and_iff_right inside]
          · next outside =>
              constructor
              · exact nofun
              · exact fun ⟨inside, _⟩ => absurd inside outside

theorem checkStream_eq_ok {stream : String} {ops : List Op} :
    checkStream stream ops = .ok () ↔ Contained ops := by
  unfold checkStream
  split
  · next halts =>
      rw [checkJumps_eq_ok]
      constructor
      · exact fun jumps => ⟨halts, jumps⟩
      · exact fun contained => contained.jumps
  · next unended =>
      constructor
      · exact nofun
      · exact fun contained => absurd contained.halts unended

theorem checkStreams_eq_ok {streams : List (String × List Op)} :
    checkStreams streams = .ok () ↔ ∀ stream ∈ streams, Contained stream.2 := by
  induction streams with
  | nil => simp [checkStreams]
  | cons first rest ih =>
      obtain ⟨stream, ops⟩ := first
      rw [checkStreams, List.forall_mem_cons, ← ih, ← @checkStream_eq_ok stream, bind_eq_ok]
      constructor
      · rintro ⟨_, sound, others⟩
        exact ⟨sound, others⟩
      · rintro ⟨sound, others⟩
        exact ⟨(), sound, others⟩

namespace Code

/-- The check accepts a template if its own stream and those of its macros are contained. -/
theorem check_eq_ok {code : Code} :
    code.check = .ok () ↔
      Contained code.ops ∧ ∀ entry ∈ code.macros, Contained entry.2.ops := by
  unfold check streams
  rw [checkStreams_eq_ok, List.forall_mem_cons, List.forall_mem_map]

/-- The stream of each macro of checked code is contained. -/
theorem contained_of_find? {code : Code} (checked : code.check = .ok ()) {name : String}
    {body : MacroCode} (found : Dictionary.find? code.macros name = some body) :
    Contained body.ops := by
  obtain ⟨before, behind, macros, _⟩ := List.lookup_eq_some_iff.mp found
  refine (check_eq_ok.mp checked).2 (name, body) ?_
  rw [macros]
  exact List.mem_append_right before List.mem_cons_self

end Code

namespace Contained

variable {ops : List Op} {ip : Nat}

theorem nonempty (contained : Contained ops) : 0 < ops.length := by
  have halts := contained.halts
  cases ops with
  | nil => cases halts
  | cons first rest => exact Nat.zero_lt_succ _

/-- Behind an instruction that does not end the stream there is another one. -/
theorem succ_lt (contained : Contained ops) {op : Op} (found : ops[ip]? = some op)
    (going : op ≠ .halt) : ip + 1 < ops.length := by
  obtain ⟨inside, _⟩ := List.getElem?_eq_some_iff.mp found
  rcases Nat.lt_or_ge (ip + 1) ops.length with further | last
  · exact further
  · have halts := contained.halts
    obtain rfl : ip = ops.length - 1 := by omega
    rw [List.getLast?_eq_getElem?, found] at halts
    exact absurd (Option.some.inj halts) going

end Contained

end Stencil

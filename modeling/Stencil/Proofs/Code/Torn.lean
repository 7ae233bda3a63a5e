import Stencil.Proofs.Code.RoundTrip

/-!
# Torn files

A reader looks at the bytes it takes and at no others: what it makes of some bytes it also makes
of them when more follow. So code that could be read from a part of its bytes would be read from
all of them with bytes left over, and a cache never finds code in a file that was cut short.
-/

namespace Stencil

namespace Wire

/-- What is read stays the same when more bytes follow, and these are handed back. -/
def Local {α : Type} (read : Reader α) : Prop :=
  ∀ bytes a rest, read bytes = some (a, rest) →
    ∀ more, read (bytes ++ more) = some (a, rest ++ more)

namespace Local

variable {α β : Type} {read : Reader α}

theorem bind {f : α → Reader β} (front : Local read) (back : ∀ a, Local (f a)) :
    Local (fun bytes => read bytes >>= fun (a, rest) => f a rest) := by
  intro bytes b rest found more
  obtain ⟨⟨a, left⟩, first, second⟩ := Option.bind_eq_some_iff.mp found
  have head := front _ _ _ first more
  have last := back a _ _ _ second more
  simp only [head, Option.bind_eq_bind, Option.bind_some]
  exact last

theorem pure (make : α → β) (a : α) : Local (fun bytes => some (make a, bytes)) := by
  intro bytes b rest found more
  cases found
  rfl

theorem none : Local (fun _ => (Option.none : Option (α × Bytes))) := by
  intro bytes a rest found
  cases found

/-- A value that depends on what was read before may be refused. -/
theorem given (a? : Option α) : Local (fun bytes => a? >>= fun a => some (a, bytes)) := by
  cases a? with
  | none => exact Local.none
  | some a => exact .pure id a

theorem guarded (holds : Prop) [Decidable holds] (a : α) :
    Local (fun bytes => if holds then some (a, bytes) else Option.none) := by
  by_cases known : holds
  · simp only [if_pos known]
    exact .pure id a
  · simp only [if_neg known]
    exact Local.none

end Local

/-! ## Fields -/

theorem readNat_local (top groups : Nat) : Local (readNat top groups) := by
  induction groups with
  | zero =>
      intro bytes n rest found
      cases found
  | succ groups ih =>
      intro bytes n rest found more
      cases bytes with
      | nil => cases found
      | cons byte bytes =>
          rw [List.cons_append]
          unfold readNat at found ⊢
          split at found
          · next last =>
              rw [if_pos last]
              split at found
              · cases found
              · next inside =>
                  cases found
                  rw [if_neg inside]
          · next further =>
              rw [if_neg further]
              split at found
              · next high tail inner =>
                  cases found
                  rw [ih _ _ _ inner more]
              · cases found

theorem readNat64_local : Local readNat64 :=
  readNat_local 1 10

theorem readNat32_local : Local readNat32 :=
  readNat_local 15 5

theorem readInt32_local : Local readInt32 :=
  .bind readNat32_local (.pure unfold)

theorem readInt64_local : Local readInt64 :=
  .bind readNat64_local (.pure fun n => Int64.ofInt (unfold n))

theorem readBool_local : Local readBool := by
  intro bytes b rest found more
  unfold readBool at found
  split at found
  · cases found
    rfl
  · cases found
    rfl
  · cases found

theorem take_local (count : Nat) : Local (take count) := by
  intro bytes word rest found more
  unfold take at found ⊢
  split at found
  · cases found
  · next enough =>
      rw [List.splitAt_eq] at found
      cases found
      have inside : count ≤ bytes.length := Nat.le_of_not_lt enough
      have further : ¬(bytes ++ more).length < count := by
        rw [List.length_append]
        omega
      rw [if_neg further, List.splitAt_eq, List.take_append_of_le_length inside,
        List.drop_append_of_le_length inside]

theorem readBits_local : Local readBits :=
  .bind (take_local 8) (.pure fun word => UInt64.ofNat (bitsOf word))

theorem readText_local : Local readText :=
  .bind readNat64_local fun size => .bind (take_local size) fun word => .given (Text.ofUtf8? word)

theorem readMany_local {α : Type} {read : Reader α} (each : Local read) (count : Nat) :
    Local (readMany read count) := by
  induction count with
  | zero => exact .pure id []
  | succ count ih => exact .bind each fun first => .bind ih (.pure fun more => first :: more)

theorem readList_local {α : Type} {read : Reader α} (each : Local read) : Local (readList read) :=
  .bind readNat64_local (readMany_local each)

/-! ## Instructions and templates -/

theorem readLiteralOf_local (kind : Nat) : Local (readLiteralOf kind) := by
  unfold readLiteralOf
  split
  · exact .pure id Literal.nil
  · exact .bind readBool_local (.pure Literal.bool)
  · exact .bind readInt64_local (.pure Literal.int)
  · exact .bind readNat64_local (.pure fun n => Literal.uint (UInt64.ofNat n))
  · exact .bind readBits_local (.pure Literal.float)
  · exact .bind readText_local (.pure Literal.text)
  · exact .none

theorem readLiteral_local : Local readLiteral :=
  .bind readNat32_local readLiteralOf_local

theorem withText_local (make : String → Op) : Local (withText make) :=
  .bind readText_local (.pure make)

theorem withSlot_local (make : Nat → Op) : Local (withSlot make) :=
  .bind readNat64_local (.pure make)

theorem withOffset_local (make : Int → Op) : Local (withOffset make) :=
  .bind readInt32_local (.pure make)

theorem readOperands_local (kind : Nat) : Local (readOperands kind) := by
  unfold readOperands
  split
  all_goals first
    | exact .pure id _
    | exact withText_local _
    | exact withSlot_local _
    | exact withOffset_local _
    | exact .bind readLiteral_local (.pure Op.literal)
    | exact .bind readNat64_local fun slot => withSlot_local (.loopGuard slot)
    | exact .bind readNat64_local fun slot => .bind readNat64_local fun max =>
        withOffset_local (.forNext slot max)
    | exact .none

theorem readOp_local : Local readOp :=
  .bind readNat32_local readOperands_local

theorem readMacro_local : Local readMacro :=
  .bind readText_local fun name => .bind (readList_local readText_local) fun parameters =>
    .bind (readList_local readOp_local) (.pure fun ops => (name, MacroCode.mk parameters ops))

theorem readTime_local : Local readTime :=
  .bind readNat64_local fun seconds => .bind readNat32_local fun nanoseconds =>
    .guarded (seconds + nanoseconds / 1000000000 < 0x8000000000000000)
      (Time.ofParts seconds nanoseconds)

theorem read_local : Local read :=
  .bind readText_local fun name => .bind readTime_local fun time =>
    .bind (readList_local readOp_local) fun ops => .bind (readList_local readMacro_local)
      (.pure fun macros => Code.mk name time ops (Dictionary.ofList macros))

/-- What a reader recovers with nothing left it does not find in a part. -/
theorem Recovers.none_of_part {α : Type} {read : Reader α} {bytes part : Bytes} {a : α}
    (recovered : Recovers read bytes a) (near : Local read) (inside : part <+: bytes)
    (torn : part ≠ bytes) : read part = none := by
  obtain ⟨more, rfl⟩ := inside
  cases found : read part with
  | none => rfl
  | some pair =>
      obtain ⟨other, rest⟩ := pair
      have whole := recovered []
      rw [List.append_nil, near _ _ _ found more] at whole
      have empty : rest ++ more = [] := congrArg Prod.snd (Option.some.inj whole)
      have complete : more = [] := (List.append_eq_nil_iff.mp empty).2
      rw [complete, List.append_nil] at torn
      exact absurd rfl torn

end Wire

namespace Code

variable {code : Code} {bytes part : Wire.Bytes}

theorem ofBytes_of_part (fits : code.Fits) (written : code.toBytes = .ok bytes)
    (inside : part <+: bytes) (torn : part ≠ bytes) (name : String) :
    ofBytes name part = .error (.notDecodable name) := by
  have recovered := Wire.read_write fits (write?_of_toBytes written)
  have nothing := recovered.none_of_part Wire.read_local inside torn
  rw [ofBytes, Wire.ofBytes?, nothing]
  rfl

end Code

namespace Cache

/-- A file that does not hold code is removed, and only it. -/
theorem get_of_undecodable {folder : Dictionary Wire.Bytes} {name : String} {bytes : Wire.Bytes}
    {error : LoadError} (present : folder.find? (fileName name) = some bytes)
    (refused : Code.ofBytes name bytes = .error error) :
    ∃ left, (files folder).get name = (none, files left) ∧ left.find? (fileName name) = none ∧
      ∀ other, other ≠ fileName name → left.find? other = folder.find? other := by
  refine ⟨folder.erase (fileName name), ?_, Dictionary.find?_erase_self folder _, ?_⟩
  · simp only [get, present, refused]
  · intro other distinct
    exact Dictionary.find?_erase_of_ne folder distinct

end Cache

namespace Code

/-- No part of the bytes of code but all of them is read as code, and a cache that finds such a
part in a file answers that there is no code and removes the file. -/
theorem torn_file_detected {code : Code} (fits : code.Fits)
    (dated : 0 ≤ code.generatedAt.nanoseconds) :
    ∃ bytes, code.toBytes = .ok bytes ∧ ∀ part, part <+: bytes → part ≠ bytes → ∀ name,
      ofBytes name part = .error (.notDecodable name) ∧
      ∀ folder : Dictionary Wire.Bytes, folder.find? (Cache.fileName name) = some part →
        ∃ left, (Cache.files folder).get name = (none, .files left) ∧
          left.find? (Cache.fileName name) = none ∧
          ∀ other, other ≠ Cache.fileName name → left.find? other = folder.find? other := by
  obtain ⟨bytes, written⟩ := toBytes_of_dated dated
  refine ⟨bytes, written, ?_⟩
  intro part inside torn name
  have refused := ofBytes_of_part fits written inside torn name
  refine ⟨refused, ?_⟩
  intro folder present
  exact Cache.get_of_undecodable present refused

theorem atBounds_torn_file_detected :
    atBounds.Fits ∧ 0 ≤ atBounds.generatedAt.nanoseconds ∧
      ∃ bytes, atBounds.toBytes = .ok bytes ∧ ∀ part, part <+: bytes → part ≠ bytes → ∀ name,
        ofBytes name part = .error (.notDecodable name) ∧
        ∀ folder : Dictionary Wire.Bytes, folder.find? (Cache.fileName name) = some part →
          ∃ left, (Cache.files folder).get name = (none, .files left) ∧
            left.find? (Cache.fileName name) = none ∧
            ∀ other, other ≠ Cache.fileName name → left.find? other = folder.find? other :=
  ⟨atBounds_fits, by decide, torn_file_detected atBounds_fits (by decide)⟩

end Code

end Stencil

import Mathlib.Data.Nat.Digits.Defs
import Mathlib.Tactic.Ring
import Stencil.Proofs.Template.Printing
import Stencil.Template.Parse

/-!
# Written integers

The digits of an integer, with a dash if it is negative, denote the integer, in a range that depends
on how it is written.
-/

namespace Stencil

open Token (Digits)

/-- The number that digits denote. -/
def Token.Digits.value (digits : Digits) : Nat :=
  Nat.ofDigitChars 10 digits.chars 0

namespace Decimal

theorem map_valueFrom {text : List Char} (digits : ∀ c ∈ text, c.isDigit = true) (start : Nat) :
    (text.mapM digitValue?).map (valueFrom 10 start) = some (Nat.ofDigitChars 10 text start) := by
  induction text generalizing start with
  | nil => rfl
  | cons c text ih =>
      obtain ⟨digit, others⟩ := List.forall_mem_cons.mp digits
      have rest := ih others (10 * start + (c.toNat - 48))
      rw [List.mapM_cons, digitValue?, if_pos digit]
      cases values : text.mapM digitValue? with
      | none =>
          rw [values] at rest
          cases rest
      | some values' =>
          rw [values] at rest
          show some (valueFrom 10 (start * 10 + (c.toNat - 48)) values') = _
          rw [Nat.mul_comm start]
          exact rest

theorem readNat?_digits (digits : Digits) : readNat? digits.chars = some digits.value := by
  rw [readNat?, if_neg digits.nonempty, map_valueFrom digits.digits]
  rfl

theorem takeSign_dash (negative : Bool) (digits : Digits) :
    takeSign (Token.dash negative ++ digits.chars) = (negative, digits.chars) := by
  cases negative with
  | true => rfl
  | false =>
      obtain ⟨first, rest, same, digit⟩ := digits.exists_cons
      show takeSign digits.chars = (false, digits.chars)
      rw [same]
      unfold takeSign
      split
      · next same =>
          cases same
          cases digit
      · next same =>
          cases same
          cases digit
      · rfl

theorem readInt64?_dash (negative : Bool) (digits : Digits) :
    readInt64? (Token.dash negative ++ digits.chars) =
      let n := signed negative digits.value
      if -0x8000000000000000 ≤ n ∧ n < 0x8000000000000000 then some (Int64.ofInt n) else none := by
  have read : readInt? (Token.dash negative ++ digits.chars) =
      some (signed negative digits.value) := by
    rw [readInt?, takeSign_dash]
    show (readNat? digits.chars).map _ = _
    rw [readNat?_digits]
    rfl
  rw [readInt64?, read]
  rfl

theorem readUInt64?_digits (digits : Digits) :
    readUInt64? digits.chars =
      if digits.value < 0x10000000000000000 then some (UInt64.ofNat digits.value) else none := by
  unfold readUInt64?
  split
  · next rest same =>
      have digit := digits.digits '+' (by rw [same]; exact List.mem_cons_self)
      cases digit
  · dsimp only
    rw [readNat?_digits]
    rfl

end Decimal

namespace Template

theorem value_digits (n : Nat) : (digits n).value = n :=
  Nat.ofDigitChars_ten_toDigits

/-- Digits alone are read as an integer, of the signed ones if there is such. -/
theorem literal_digits (place : Place) (negative : Bool) (digits : Digits) :
    literal place (.ofList (Token.dash negative ++ digits.chars)) =
      let n := Decimal.signed negative digits.value
      if -0x8000000000000000 ≤ n ∧ n < 0x8000000000000000 then .ok (.int place (Int64.ofInt n))
      else if negative = false ∧ digits.value < 0x10000000000000000 then
        .ok (.uint place (UInt64.ofNat digits.value))
      else .error (.integerOutOfRange (.ofList (Token.dash negative ++ digits.chars))) := by
  have unmarked : digits.chars.any (fun c => c == '.' || c == 'e' || c == 'E') = false := by
    refine List.any_eq_false.mpr fun c inside marked => ?_
    have digit := digits.digits c inside
    simp only [Bool.or_eq_true, beq_iff_eq] at marked
    rcases marked with (rfl | rfl) | rfl <;> cases digit
  simp only [literal, String.toList_ofList, Decimal.takeSign_dash]
  split
  · next same =>
      have inside := digits.digits 'x' (by rw [same]; simp)
      cases inside
  · next same =>
      have inside := digits.digits 'X' (by rw [same]; simp)
      cases inside
  · rw [unmarked, if_neg nofun, Decimal.readInt64?_dash, Decimal.readUInt64?_digits]
    dsimp only
    by_cases within : -0x8000000000000000 ≤ Decimal.signed negative digits.value ∧
        Decimal.signed negative digits.value < 0x8000000000000000
    · rw [if_pos within, if_pos within]
    · rw [if_neg within, if_neg within]
      cases negative with
      | true => rfl
      | false =>
          by_cases below : digits.value < 0x10000000000000000
          · rw [if_neg nofun, if_pos below, if_pos ⟨rfl, below⟩]
          · rw [if_neg nofun, if_neg below, if_neg fun both => below both.2]

theorem literal_int (place : Place) (n : Int64) :
    literal place (.ofList (Token.dash (n.toInt < 0) ++ Decimal.digitsOf n.toInt.natAbs)) =
      .ok (.int place n) := by
  have whole : Decimal.signed (n.toInt < 0) (digits n.toInt.natAbs).value = n.toInt := by
    rw [value_digits]
    unfold Decimal.signed
    split
    · next negative =>
        have := of_decide_eq_true negative
        omega
    · next positive =>
        have := of_decide_eq_false (Bool.eq_false_iff.mpr positive)
        omega
  have read := literal_digits place (n.toInt < 0) (digits n.toInt.natAbs)
  dsimp only at read
  rw [whole, if_pos ⟨n.le_toInt, n.toInt_lt⟩, Int64.ofInt_toInt] at read
  exact read

theorem literal_uint (place : Place) (n : UInt64) (large : 0x8000000000000000 ≤ n) :
    literal place (.ofList (Token.dash false ++ Decimal.digitsOf n.toNat)) =
      .ok (.uint place n) := by
  have above : 0x8000000000000000 ≤ n.toNat := UInt64.le_iff_toNat_le.mp large
  have outside : ¬(-0x8000000000000000 ≤ Decimal.signed false n.toNat ∧
      Decimal.signed false n.toNat < 0x8000000000000000) := by
    rintro ⟨-, below⟩
    have below : (n.toNat : Int) < 0x8000000000000000 := below
    omega
  have read := literal_digits place false (digits n.toNat)
  dsimp only at read
  rw [value_digits, if_neg outside, if_pos ⟨rfl, n.toNat_lt⟩, UInt64.ofNat_toNat] at read
  exact read

end Template

/-! ## Hexadecimal digits -/

structure Token.HexDigits where
  chars : List Char
  nonempty : chars ≠ []
  digits : ∀ c ∈ chars, isHexDigit c = true

/-- The number that hexadecimal digits denote. -/
def Token.HexDigits.value (digits : HexDigits) : Nat :=
  Nat.ofDigits 16 (digits.chars.reverse.map fun c => (Text.hexValue? c).getD 0)

theorem Decimal.valueFrom_eq (base start : Nat) (digits : List Nat) :
    valueFrom base start digits =
      Nat.ofDigits base digits.reverse + base ^ digits.length * start := by
  induction digits generalizing start with
  | nil => simp [valueFrom]
  | cons digit rest ih =>
      rw [valueFrom, ih, List.reverse_cons, Nat.ofDigits_append, Nat.ofDigits_singleton,
        List.length_reverse, List.length_cons]
      ring

namespace Template

theorem hexValue_eq (digits : Token.HexDigits) : hexValue digits.chars = digits.value := by
  rw [hexValue, Decimal.valueFrom_eq, Nat.mul_zero, Nat.add_zero, ← List.map_reverse]
  rfl

/-- Hexadecimal digits are read as a signed integer. -/
theorem literal_hex (place : Place) (negative : Bool) (digits : Token.HexDigits) :
    literal place (.ofList (Token.dash negative ++ '0' :: 'x' :: digits.chars)) =
      if digits.value < 0x8000000000000000 then
        .ok (.int place (Int64.ofInt (Decimal.signed negative digits.value)))
      else .error
        (.hexOutOfRange (.ofList (Token.dash negative ++ '0' :: 'x' :: digits.chars))) := by
  have signs : Decimal.takeSign (Token.dash negative ++ '0' :: 'x' :: digits.chars) =
      (negative, '0' :: 'x' :: digits.chars) := by
    cases negative <;> rfl
  simp only [literal, String.toList_ofList, signs, hexValue_eq]

end Template

end Stencil

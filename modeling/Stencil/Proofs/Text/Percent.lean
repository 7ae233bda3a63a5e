import Stencil.Proofs.Code.Fields
import Stencil.Text.Percent

/-!
# Percent encoding is reversible

The bytes of a text are read back from its percent encoding, so that different texts are encoded
differently. What is written are letters, digits, hyphens and dots, and pairs of digits behind
percent signs.
-/

namespace Stencil.Text

theorem hexValue?_hexDigit {n : Nat} (small : n < 16) : hexValue? (hexDigit true n) = some n := by
  have each : ∀ digit : Fin 16, hexValue? (hexDigit true digit.val) = some digit.val := by decide
  exact each ⟨n, small⟩

theorem utf8_inj {text other : String} (same : utf8 text = utf8 other) : text = other := by
  have back := ofUtf8?_utf8 text
  rw [same, ofUtf8?_utf8] at back
  exact (Option.some.inj back).symm

/-- The bytes of a text are those that it is held in. -/
theorem utf8_eq_toUTF8 (text : String) : utf8 text = text.toUTF8.data.toList := by
  show _ = text.toByteArray.data.toList
  rw [← String.utf8Encode_toList, List.utf8Encode, List.data_toByteArray]
  rfl

namespace Percent

/-! ## Reading back -/

/-- Reads bytes back; a percent sign without two digits after it is refused. -/
def decode? : List Char → Option (List UInt8)
  | [] => some []
  | c :: rest =>
      if c = '%' then
        match rest with
        | high :: low :: rest => do
            let h ← hexValue? high
            let l ← hexValue? low
            return UInt8.ofNat (16 * h + l) :: (← decode? rest)
        | _ => none
      else do
        return UInt8.ofNat c.toNat :: (← decode? rest)

theorem decode?_percent (high low : Char) (rest : List Char) :
    decode? ('%' :: high :: low :: rest) = do
      let h ← hexValue? high
      let l ← hexValue? low
      return UInt8.ofNat (16 * h + l) :: (← decode? rest) := by
  rw [decode?.eq_def]
  rfl

theorem decode?_plain {c : Char} (other : c ≠ '%') (rest : List Char) :
    decode? (c :: rest) = do return UInt8.ofNat c.toNat :: (← decode? rest) := by
  rw [decode?.eq_def]
  exact if_neg other

theorem ne_percent_of_isPlain {byte : UInt8} (plain : isPlain byte = true) :
    Char.ofNat byte.toNat ≠ '%' := by
  intro same
  unfold isPlain at plain
  rw [same] at plain
  revert plain
  decide

theorem toNat_ofByte (byte : UInt8) : (Char.ofNat byte.toNat).toNat = byte.toNat := by
  have below : byte.toNat < 256 := byte.toNat_lt
  have valid : byte.toNat.isValidChar := .inl (by omega)
  rw [Char.ofNat, dif_pos valid]
  rfl

theorem decode?_encodeByte (byte : UInt8) (rest : List Char) :
    decode? (encodeByte byte ++ rest) = (decode? rest).map (byte :: ·) := by
  unfold encodeByte
  split
  · next plain =>
      rw [List.singleton_append, decode?_plain (ne_percent_of_isPlain plain), toNat_ofByte,
        UInt8.ofNat_toNat]
      cases decode? rest <;> rfl
  · have below : byte.toNat < 256 := byte.toNat_lt
    have high := hexValue?_hexDigit (n := byte.toNat / 16) (by omega)
    have low := hexValue?_hexDigit (n := byte.toNat % 16) (by omega)
    have sum : 16 * (byte.toNat / 16) + byte.toNat % 16 = byte.toNat := Nat.div_add_mod _ _
    simp only [hexPair, List.cons_append, List.nil_append, decode?_percent, high, low,
      Option.bind_eq_bind, Option.bind_some, sum, UInt8.ofNat_toNat]
    cases decode? rest <;> rfl

theorem decode?_encode (text : String) : decode? (encode text).toList = some (utf8 text) := by
  rw [toList_encode]
  induction utf8 text with
  | nil => rfl
  | cons byte rest ih => rw [List.flatMap_cons, decode?_encodeByte, ih, Option.map_some]

theorem encode_inj {text other : String} (same : encode text = encode other) : text = other := by
  have bytes := decode?_encode text
  rw [same, decode?_encode] at bytes
  exact utf8_inj (Option.some.inj bytes).symm

/-! ## What is written -/

def upperHex : List Char :=
  "0123456789ABCDEF".toList

/-- The characters of an encoded text: those that stand as themselves, and percent signs with two
upper-case hexadecimal digits each. -/
inductive Encoded : List Char → Prop
  | nil : Encoded []
  | plain {c : Char} {rest : List Char} (stands : c.isAlphanum = true ∨ c = '-' ∨ c = '.')
      (others : Encoded rest) : Encoded (c :: rest)
  | byte {high low : Char} {rest : List Char} (digit : high ∈ upperHex) (digit' : low ∈ upperHex)
      (others : Encoded rest) : Encoded ('%' :: high :: low :: rest)

namespace Encoded

variable {text rest : List Char}

theorem append (encoded : Encoded text) (encoded' : Encoded rest) : Encoded (text ++ rest) := by
  induction encoded with
  | nil => exact encoded'
  | plain stands _ ih => exact .plain stands ih
  | byte digit digit' _ ih => exact .byte digit digit' ih

/-- A character that is neither plain nor a percent sign does not occur. -/
theorem not_mem {c : Char} (encoded : Encoded text) (foreign : c.isAlphanum = false)
    (special : c ∉ ['-', '.', '%']) : c ∉ text := by
  have digits : upperHex.all Char.isAlphanum = true := by decide
  have apart {other : Char} (plain : other.isAlphanum = true) : c ≠ other := by
    rintro rfl
    exact Bool.false_ne_true (foreign.symm.trans plain)
  simp only [List.mem_cons, List.not_mem_nil, or_false, not_or] at special
  obtain ⟨hyphen, dot, percent⟩ := special
  induction encoded with
  | nil => exact List.not_mem_nil
  | plain stands _ ih =>
      rcases stands with plain | rfl | rfl
      · exact List.not_mem_cons_of_ne_of_not_mem (apart plain) ih
      · exact List.not_mem_cons_of_ne_of_not_mem hyphen ih
      · exact List.not_mem_cons_of_ne_of_not_mem dot ih
  | byte digit digit' _ ih =>
      have plain := List.all_eq_true.mp digits
      have low := List.not_mem_cons_of_ne_of_not_mem (apart (plain _ digit')) ih
      have high := List.not_mem_cons_of_ne_of_not_mem (apart (plain _ digit)) low
      exact List.not_mem_cons_of_ne_of_not_mem percent high

end Encoded

theorem hexDigit_mem_upperHex {n : Nat} (small : n < 16) : hexDigit true n ∈ upperHex := by
  have each : ∀ digit : Fin 16, hexDigit true digit.val ∈ upperHex := by decide
  exact each ⟨n, small⟩

theorem encoded_encodeByte (byte : UInt8) : Encoded (encodeByte byte) := by
  unfold encodeByte
  split
  · next plain =>
      simp only [isPlain, Bool.or_eq_true, beq_iff_eq, or_assoc] at plain
      exact .plain plain .nil
  · have below : byte.toNat < 256 := byte.toNat_lt
    exact .byte (hexDigit_mem_upperHex (by omega)) (hexDigit_mem_upperHex (by omega)) .nil

theorem encoded_encode (text : String) : Encoded (encode text).toList := by
  rw [toList_encode]
  induction utf8 text with
  | nil => exact .nil
  | cons byte rest ih =>
      rw [List.flatMap_cons]
      exact (encoded_encodeByte byte).append ih

end Percent

end Stencil.Text

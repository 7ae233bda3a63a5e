import Mathlib.Data.Nat.Basic
import Mathlib.Tactic.Ring
import Stencil.Code.Wire

/-!
# Reading what was written, field by field

A reader recovers a value from its bytes, whatever bytes follow. Numbers are recovered up to the
width of their reader, texts and lists as long as their counts are words of the machine.
-/

namespace Stencil

/-- Counts, slots and ceilings of the machine are words of 64 bits. -/
def Word (n : Nat) : Prop :=
  n < 2 ^ 64

/-- Jumps reach as far as a signed word of 32 bits. -/
def Distance (offset : Int) : Prop :=
  -2 ^ 31 ≤ offset ∧ offset < 2 ^ 31

/-- The bytes of the text can be counted. -/
def Text.Fits (text : String) : Prop :=
  Word (Text.utf8 text).length

instance (n : Nat) : Decidable (Word n) :=
  inferInstanceAs (Decidable (n < 2 ^ 64))

instance (offset : Int) : Decidable (Distance offset) :=
  inferInstanceAs (Decidable (-2 ^ 31 ≤ offset ∧ offset < 2 ^ 31))

instance (text : String) : Decidable (Text.Fits text) :=
  inferInstanceAs (Decidable (Word (Text.utf8 text).length))

namespace Text

theorem ofUtf8?_utf8 (text : String) : ofUtf8? (utf8 text) = some text := by
  have encoded : (⟨(utf8 text).toArray⟩ : ByteArray) = text.toByteArray := by
    rw [← String.utf8Encode_toList]
    apply ByteArray.ext
    exact List.data_toByteArray.symm
  unfold ofUtf8? String.fromUTF8?
  rw [encoded, dif_pos text.isValidUTF8]
  rfl

end Text

namespace Wire

/-- A reader takes a value from its bytes and hands back whatever follows them. -/
def Recovers {α : Type} (read : Reader α) (written : Bytes) (value : α) : Prop :=
  ∀ tail, read (written ++ tail) = some (value, tail)

namespace Recovers

variable {α β : Type} {read : Reader α} {first second : Bytes} {a : α} {b : β}

theorem pure (a : α) : Recovers (fun bytes => some (a, bytes)) [] a := by
  intro tail
  rfl

/-- What is read next may depend on what was read first. -/
theorem bind {f : α → Reader β} (front : Recovers read first a)
    (back : Recovers (f a) second b) :
    Recovers (fun bytes => read bytes >>= fun (a, rest) => f a rest) (first ++ second) b := by
  intro tail
  have head := front (second ++ tail)
  have last := back tail
  rw [List.append_assoc]
  simp only [head, Option.bind_eq_bind, Option.bind_some]
  exact last

theorem map (front : Recovers read first a) (make : α → β) :
    Recovers (fun bytes => read bytes >>= fun (a, rest) => some (make a, rest)) first (make a) := by
  have made := front.bind (f := fun a bytes => some (make a, bytes)) (pure (make a))
  rwa [List.append_nil] at made

end Recovers

/-! ## Numbers -/

theorem readNat_writeNat {top groups n : Nat} (small : top < 128)
    (bounded : n < (top + 1) * 128 ^ groups) (tail : Bytes) :
    readNat top (groups + 1) (writeNat n ++ tail) = some (n, tail) := by
  induction groups generalizing n with
  | zero =>
      have short : n ≤ top := by omega
      have byte : (UInt8.ofNat n).toNat = n := UInt8.toNat_ofNat_of_lt' (show _ < 256 by omega)
      rw [writeNat, if_pos (by omega), List.singleton_append, readNat, byte,
        if_pos (by omega), if_neg (by omega)]
  | succ groups ih =>
      rw [writeNat]
      split
      · next last =>
          have byte : (UInt8.ofNat n).toNat = n := UInt8.toNat_ofNat_of_lt' (show _ < 256 by omega)
          rw [List.singleton_append, readNat, byte, if_pos last, if_neg (by omega)]
      · next more =>
          have byte : (UInt8.ofNat (n % 128 + 128)).toNat = n % 128 + 128 :=
            UInt8.toNat_ofNat_of_lt' (show _ < 256 by omega)
          have high : n / 128 < (top + 1) * 128 ^ groups := by
            rw [Nat.div_lt_iff_lt_mul (by decide)]
            calc n < (top + 1) * 128 ^ (groups + 1) := bounded
              _ = (top + 1) * 128 ^ groups * 128 := by ring
          rw [List.cons_append, readNat, byte, if_neg (by omega), ih high]
          simp only [Option.some.injEq, Prod.mk.injEq, and_true]
          omega

theorem readNat64_writeNat {n : Nat} (word : Word n) : Recovers readNat64 (writeNat n) n := by
  intro tail
  exact readNat_writeNat (by decide) (by simpa [Word] using word) tail

theorem readNat32_writeNat {n : Nat} (bounded : n < 2 ^ 32) :
    Recovers readNat32 (writeNat n) n := by
  intro tail
  exact readNat_writeNat (by decide) (by simpa using bounded) tail

theorem readInt32_writeInt {n : Int} (near : Distance n) : Recovers readInt32 (writeInt n) n := by
  have bounded : fold n < 2 ^ 32 := by
    obtain ⟨low, high⟩ := near
    unfold fold
    split <;> omega
  have unfolded := (readNat32_writeNat bounded).map unfold
  rwa [unfold_fold] at unfolded

theorem readInt64_writeInt (n : Int64) : Recovers readInt64 (writeInt n.toInt) n := by
  have bounded : Word (fold n.toInt) := by
    have low := n.le_toInt
    have high := n.toInt_lt
    unfold Word fold
    split <;> omega
  have unfolded := (readNat64_writeNat bounded).map fun folded => Int64.ofInt (unfold folded)
  rwa [unfold_fold, Int64.ofInt_toInt] at unfolded

theorem readBool_writeBool (b : Bool) : Recovers readBool (writeBool b) b := by
  intro tail
  cases b with
  | false => rfl
  | true => rfl

/-! ## Bytes and texts -/

theorem take_append (word : Bytes) : Recovers (take word.length) word word := by
  intro tail
  rw [take, if_neg (by simp)]
  simp [List.splitAt_eq]

/-- As many bytes as are written of a number keep it up to their width. -/
theorem bitsOf_places (count n : Nat) :
    bitsOf ((List.range count).map fun place => UInt8.ofNat (n / Nat.pow 256 place % 256)) =
      n % 256 ^ count := by
  induction count generalizing n with
  | zero => simp [bitsOf, Nat.mod_one]
  | succ count ih =>
      have low : (UInt8.ofNat (n / Nat.pow 256 0 % 256)).toNat = n % 256 := by
        rw [UInt8.toNat_ofNat_of_lt' (Nat.mod_lt _ (by decide))]
        simp
      have shifted : ∀ place, n / Nat.pow 256 (place + 1) = n / 256 / Nat.pow 256 place := by
        intro place
        rw [Nat.div_div_eq_div_mul]
        congr 1
        exact Nat.pow_succ'
      have high := ih (n / 256)
      simp only [bitsOf] at high ⊢
      rw [List.range_succ_eq_map, List.map_cons, List.foldr_cons, List.map_map, low]
      simp only [Function.comp_def, Nat.succ_eq_add_one, shifted, high]
      rw [Nat.pow_succ', Nat.mod_mul]

theorem readBits_writeBits (bits : UInt64) : Recovers readBits (writeBits bits) bits := by
  have read := (take_append (writeBits bits)).map fun word => UInt64.ofNat (bitsOf word)
  have same : UInt64.ofNat (bitsOf (writeBits bits)) = bits := by
    have all : bits.toNat < 256 ^ 8 := bits.toNat_lt
    rw [writeBits, bitsOf_places, Nat.mod_eq_of_lt all]
    exact UInt64.ofNat_toNat
  rw [same] at read
  exact read

theorem readText_writeText {text : String} (fits : Text.Fits text) :
    Recovers readText (writeText text) text := by
  intro tail
  have size := readNat64_writeNat fits (Text.utf8 text ++ tail)
  have word := take_append (Text.utf8 text) tail
  simp only [readText, writeText, List.append_assoc, size, Option.bind_eq_bind, Option.bind_some,
    word, Text.ofUtf8?_utf8]
  rfl

/-! ## Lists -/

variable {α : Type} {read : Reader α} {write : α → Bytes}

theorem readMany_flatMap {items : List α}
    (each : ∀ item ∈ items, Recovers read (write item) item) :
    Recovers (readMany read items.length) (items.flatMap write) items := by
  induction items with
  | nil => exact .pure []
  | cons item rest ih =>
      have head := each item List.mem_cons_self
      have more := ih fun other found => each other (List.mem_cons_of_mem _ found)
      rw [List.flatMap_cons]
      exact head.bind (f := fun first bytes => readMany read rest.length bytes >>=
        fun found => some (first :: found.1, found.2)) (more.map fun more => item :: more)

theorem readList_writeList {items : List α} (counted : Word items.length)
    (each : ∀ item ∈ items, Recovers read (write item) item) :
    Recovers (readList read) (writeList write items) items :=
  (readNat64_writeNat counted).bind (readMany_flatMap each)

end Wire

end Stencil

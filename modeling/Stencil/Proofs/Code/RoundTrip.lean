import Mathlib.Data.String.Basic
import Stencil.Proofs.Code.Fields
import Stencil.Store.Cache

/-!
# Code survives its form as bytes

Code whose counts, slots and jumps fit into words of the machine is read back from its bytes
unchanged, whatever follows them; so different code never has the same bytes.
-/

namespace Stencil

/-! ## What code in memory holds -/

/-- A list that can be counted, of items that fit. -/
def AllFit {α : Type} (Fits : α → Prop) (items : List α) : Prop :=
  Word items.length ∧ ∀ item ∈ items, Fits item

def Literal.Fits : Literal → Prop
  | .text s => Text.Fits s
  | _ => True

def Op.Fits : Op → Prop
  | .literal value => value.Fits
  | .fetchSymbol text | .fetchField text | .printText text | .callFunction text
  | .callMethod text | .callMacro text | .filter text => Text.Fits text
  | .loadLocal slot | .saveLocal slot | .loopState slot | .forStart slot => Word slot
  | .and offset | .or offset | .goto offset | .jumpIfFalse offset => Distance offset
  | .forNext slot max exit => Word slot ∧ Word max ∧ Distance exit
  | .loopGuard slot max => Word slot ∧ Word max
  | _ => True

structure MacroCode.Fits (body : MacroCode) : Prop where
  parameters : AllFit Text.Fits body.parameters
  ops : AllFit Op.Fits body.ops

/-- The macros stand in a table sorted by their names, and moments count their seconds from 1970
in a signed word. -/
structure Code.Fits (code : Code) : Prop where
  name : Text.Fits code.name
  seconds : code.generatedAt.seconds < 2 ^ 63
  ops : AllFit Op.Fits code.ops
  macros : AllFit (fun entry => Text.Fits entry.1 ∧ entry.2.Fits) code.macros
  sorted : code.macros.Pairwise fun entry later => entry.1 < later.1

namespace Dictionary

variable {α : Type}

theorem insert_of_last {entries : Dictionary α} {key : String} {value : α}
    (last : ∀ entry ∈ entries, entry.1 < key) :
    entries.insert key value = entries ++ [(key, value)] := by
  induction entries with
  | nil => rfl
  | cons entry rest ih =>
      obtain ⟨other, kept⟩ := entry
      have before : other < key := last _ List.mem_cons_self
      have after := ih fun entry found => last entry (List.mem_cons_of_mem _ found)
      rw [insert, if_neg (lt_asymm before), if_neg (ne_of_gt before), after]
      rfl

/-- A table that is sorted by its keys is its own dictionary. -/
theorem ofList_of_sorted {entries : List (String × α)}
    (sorted : entries.Pairwise fun entry later => entry.1 < later.1) :
    ofList entries = entries := by
  have grown : ∀ found : Dictionary α,
      (found ++ entries).Pairwise (fun entry later => entry.1 < later.1) →
      entries.foldl (fun found entry => found.insert entry.1 entry.2) found =
        found ++ entries := by
    clear sorted
    induction entries with
    | nil =>
        intro found _
        simp
    | cons entry rest ih =>
        intro found sorted
        obtain ⟨key, value⟩ := entry
        have last : ∀ entry ∈ found, entry.1 < key := by
          intro entry member
          exact (List.pairwise_append.mp sorted).2.2 entry member (key, value) List.mem_cons_self
        have shifted : found ++ (key, value) :: rest = found ++ [(key, value)] ++ rest := by simp
        rw [shifted] at sorted ⊢
        rw [List.foldl_cons]
        dsimp only
        rw [insert_of_last last]
        exact ih _ sorted
  exact grown [] sorted

end Dictionary

namespace Wire

/-! ## Literals and instructions -/

theorem readLiteral_value {value : Literal} {written : Bytes} (kind : Nat) (known : kind < 6)
    (rest : Recovers (readLiteralOf kind) written value) :
    Recovers readLiteral (writeNat kind ++ written) value :=
  (readNat32_writeNat (n := kind) (by omega)).bind rest

theorem readLiteral_writeLiteral {value : Literal} (fits : value.Fits) :
    Recovers readLiteral (writeLiteral value) value := by
  cases value with
  | nil =>
      have read := readLiteral_value 0 (by decide) (Recovers.pure Literal.nil)
      rwa [List.append_nil] at read
  | bool b => exact readLiteral_value 1 (by decide) ((readBool_writeBool b).map Literal.bool)
  | int n => exact readLiteral_value 2 (by decide) ((readInt64_writeInt n).map Literal.int)
  | uint n =>
      have word : Word n.toNat := n.toNat_lt
      have read := (readNat64_writeNat word).map fun n => Literal.uint (UInt64.ofNat n)
      rw [UInt64.ofNat_toNat] at read
      exact readLiteral_value 3 (by decide) read
  | float bits =>
      exact readLiteral_value 4 (by decide) ((readBits_writeBits bits).map Literal.float)
  | text s => exact readLiteral_value 5 (by decide) ((readText_writeText fits).map Literal.text)

section Instructions

variable {slot : Nat} {op : Op} {operands : Bytes}

theorem withText_writeText {text : String} (fits : Text.Fits text) (make : String → Op) :
    Recovers (withText make) (writeText text) (make text) :=
  (readText_writeText fits).map make

theorem withSlot_writeNat (word : Word slot) (make : Nat → Op) :
    Recovers (withSlot make) (writeNat slot) (make slot) :=
  (readNat64_writeNat word).map make

theorem withOffset_writeInt {offset : Int} (near : Distance offset) (make : Int → Op) :
    Recovers (withOffset make) (writeInt offset) (make offset) :=
  (readInt32_writeInt near).map make

/-- An instruction is its kind and what its kind says comes after. -/
theorem readOp_operands (kind : Nat) (known : kind < 54)
    (rest : Recovers (readOperands kind) operands op) :
    Recovers readOp (writeNat kind ++ operands) op :=
  (readNat32_writeNat (n := kind) (by omega)).bind rest

theorem readOp_bare (kind : Nat) (known : kind < 54)
    (bare : readOperands kind = fun rest => some (op, rest)) :
    Recovers readOp (writeNat kind) op := by
  have rest : Recovers (readOperands kind) [] op := by
    rw [bare]
    exact Recovers.pure op
  have read := readOp_operands kind known rest
  rwa [List.append_nil] at read

theorem readOp_writeOp {op : Op} (fits : op.Fits) : Recovers readOp (writeOp op) op := by
  cases op with
  | literal value =>
      exact readOp_operands 3 (by decide) ((readLiteral_writeLiteral fits).map Op.literal)
  | fetchSymbol | fetchField | printText | callFunction | callMethod | callMacro | filter =>
      exact readOp_operands _ (by decide) (withText_writeText fits _)
  | loadLocal | saveLocal | loopState | forStart =>
      exact readOp_operands _ (by decide) (withSlot_writeNat fits _)
  | and | or | goto | jumpIfFalse =>
      exact readOp_operands _ (by decide) (withOffset_writeInt fits _)
  | forNext slot max exit =>
      obtain ⟨slotWord, maxWord, near⟩ := fits
      have operands : Recovers (readOperands 48)
          (writeNat slot ++ (writeNat max ++ writeInt exit)) (.forNext slot max exit) := by
        intro tail
        have first := readNat64_writeNat slotWord (writeNat max ++ (writeInt exit ++ tail))
        have second := readNat64_writeNat maxWord (writeInt exit ++ tail)
        have third := withOffset_writeInt near (.forNext slot max) tail
        simp only [readOperands, List.append_assoc, first, second, third, Option.bind_eq_bind,
          Option.bind_some]
      have read := readOp_operands 48 (by decide) operands
      simpa only [writeOp, List.append_assoc] using read
  | loopGuard slot max =>
      obtain ⟨slotWord, maxWord⟩ := fits
      have operands : Recovers (readOperands 49) (writeNat slot ++ writeNat max)
          (.loopGuard slot max) := by
        intro tail
        have first := readNat64_writeNat slotWord (writeNat max ++ tail)
        have second := withSlot_writeNat maxWord (.loopGuard slot) tail
        simp only [readOperands, List.append_assoc, first, second, Option.bind_eq_bind,
          Option.bind_some]
      have read := readOp_operands 49 (by decide) operands
      simpa only [writeOp, List.append_assoc] using read
  | _ => exact readOp_bare _ (by decide) rfl

end Instructions

/-! ## Whole templates -/

theorem readMacro_writeMacro {entry : String × MacroCode} (name : Text.Fits entry.1)
    (fits : entry.2.Fits) : Recovers readMacro (writeMacro entry) entry := by
  intro tail
  have texts := readList_writeList fits.parameters.1 fun text found =>
    readText_writeText (fits.parameters.2 text found)
  have ops := readList_writeList fits.ops.1 fun op found => readOp_writeOp (fits.ops.2 op found)
  simp only [readMacro, writeMacro, List.append_assoc, readText_writeText name _, texts _, ops _,
    Option.bind_eq_bind, Option.bind_some]
  rfl

theorem readTime_writeTime {time : Time} {stamp : Bytes} (bounded : time.seconds < 2 ^ 63)
    (written : writeTime? time = some stamp) : Recovers readTime stamp time := by
  intro tail
  unfold writeTime? at written
  split at written
  · cases written
  next dated =>
    cases written
    have whole : Word time.seconds.toNat := by
      unfold Word
      omega
    have part : time.fraction < 1000000000 := by
      unfold Time.fraction
      omega
    have sum : Time.ofParts time.seconds.toNat time.fraction = time := by
      obtain ⟨nanoseconds⟩ := time
      simp only [Time.ofParts, Time.seconds, Time.fraction, Time.mk.injEq] at dated ⊢
      omega
    have early : time.seconds.toNat + time.fraction / 1000000000 < 0x8000000000000000 := by
      omega
    have first := readNat64_writeNat whole (writeNat time.fraction ++ tail)
    have second := readNat32_writeNat (n := time.fraction) (by omega) tail
    simp only [readTime, List.append_assoc, first, second, Option.bind_eq_bind, Option.bind_some,
      if_pos early, sum]
    rfl

theorem read_write {code : Code} {bytes : Bytes} (fits : code.Fits)
    (written : write? code = some bytes) : Recovers read bytes code := by
  intro tail
  obtain ⟨stamp, stamped, parts⟩ := Option.bind_eq_some_iff.mp written
  cases parts
  have time := readTime_writeTime fits.seconds stamped
  have ops := readList_writeList fits.ops.1 fun op found => readOp_writeOp (fits.ops.2 op found)
  have macros := readList_writeList fits.macros.1 fun entry found =>
    readMacro_writeMacro (fits.macros.2 entry found).1 (fits.macros.2 entry found).2
  have sorted : Dictionary.ofList code.macros = code.macros :=
    Dictionary.ofList_of_sorted fits.sorted
  simp only [read, List.append_assoc, readText_writeText fits.name _, time _, ops _, macros _,
    sorted, Option.bind_eq_bind, Option.bind_some]
  rfl

theorem ofBytes?_write {code : Code} {bytes : Bytes} (fits : code.Fits)
    (written : write? code = some bytes) (tail : Bytes) : ofBytes? (bytes ++ tail) = some code := by
  rw [ofBytes?, read_write fits written tail]
  rfl

end Wire

namespace Code

variable {code : Code} {bytes : Wire.Bytes}

theorem write?_of_toBytes (written : code.toBytes = .ok bytes) :
    Wire.write? code = some bytes := by
  unfold toBytes at written
  split at written
  · next found =>
      cases written
      exact found
  · cases written

theorem toBytes_of_dated (dated : 0 ≤ code.generatedAt.nanoseconds) :
    ∃ bytes, code.toBytes = .ok bytes := by
  have stamped : Wire.writeTime? code.generatedAt =
      some (Wire.writeNat code.generatedAt.seconds.toNat ++
        Wire.writeNat code.generatedAt.fraction) := by
    rw [Wire.writeTime?, if_neg (by omega)]
  simp [toBytes, Wire.write?, stamped]

theorem ofBytes_of_toBytes (fits : code.Fits) (written : code.toBytes = .ok bytes)
    (name : String) (tail : Wire.Bytes) : ofBytes name (bytes ++ tail) = .ok code := by
  rw [ofBytes, Wire.ofBytes?_write fits (write?_of_toBytes written) tail]

/-- Code from 1970 on has a form as bytes that is read back as that code whatever bytes follow,
and that no other code has. -/
theorem bytes_round_trip (fits : code.Fits) (dated : 0 ≤ code.generatedAt.nanoseconds) :
    ∃ bytes, code.toBytes = .ok bytes ∧
      (∀ name tail, ofBytes name (bytes ++ tail) = .ok code) ∧
      ∀ other : Code, other.Fits → other.toBytes = .ok bytes → other = code := by
  obtain ⟨bytes, written⟩ := toBytes_of_dated dated
  have back := ofBytes_of_toBytes fits written
  refine ⟨bytes, written, back, ?_⟩
  intro other otherFits otherWritten
  have otherBack := ofBytes_of_toBytes otherFits otherWritten code.name []
  rw [back code.name []] at otherBack
  cases otherBack
  rfl

/-- Code with values at the bounds of their fields. -/
def atBounds : Code where
  name := "grüße/ß.tt"
  generatedAt := ⟨1500000000⟩
  ops := [.literal (.int Int64.minValue), .literal (.uint 0xffffffffffffffff),
    .literal (.float 0x8000000000000000), .printText "<é>", .loadLocal 0xffffffffffffffff,
    .goto (-2147483648), .forNext 128 16384 2147483647, .halt]
  macros := [("", ⟨[], []⟩), ("row", ⟨["a", "ö"], [.loadLocal 0, .print, .halt]⟩)]

theorem atBounds_fits : atBounds.Fits where
  name := by decide
  seconds := by decide
  ops := by
    constructor
    · decide
    · simp only [atBounds, List.mem_cons, List.not_mem_nil, or_false, forall_eq_or_imp,
        forall_eq, Op.Fits, Literal.Fits]
      decide
  macros := by
    constructor
    · decide
    · intro entry found
      rcases List.mem_cons.mp found with rfl | found
      · exact ⟨by decide, ⟨by decide, by simp⟩, ⟨by decide, by simp⟩⟩
      · cases List.mem_singleton.mp found
        refine ⟨by decide, ⟨by decide, by decide⟩, ⟨by decide, ?_⟩⟩
        simp only [List.mem_cons, List.not_mem_nil, or_false, forall_eq_or_imp, forall_eq, Op.Fits]
        decide
  sorted := by decide

theorem atBounds_round_trip :
    atBounds.Fits ∧ 0 ≤ atBounds.generatedAt.nanoseconds ∧
      ∃ bytes, atBounds.toBytes = .ok bytes ∧
        (∀ name tail, ofBytes name (bytes ++ tail) = .ok atBounds) ∧
        ∀ other : Code, other.Fits → other.toBytes = .ok bytes → other = atBounds :=
  ⟨atBounds_fits, by decide, bytes_round_trip atBounds_fits (by decide)⟩

end Code

end Stencil

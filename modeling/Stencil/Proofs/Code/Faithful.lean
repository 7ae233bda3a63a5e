import Stencil.Proofs.Code.RoundTrip

/-!
# Nothing else is read back

Counts and slots that are no words of the machine are refused by the readers. So where the bytes of
code can be read at all, they are read as that code, whatever its size.
-/

namespace Stencil

/-- The keys of a dictionary increase. -/
abbrev Dictionary.Sorted {α : Type} (entries : Dictionary α) : Prop :=
  entries.Pairwise fun entry later => entry.1 < later.1

namespace Wire

/-- If a reader finds a value in the bytes of one, it is that one. -/
def Faithful {α : Type} (read : Reader α) (written : Bytes) (value : α) : Prop :=
  ∀ tail found rest, read (written ++ tail) = some (found, rest) → found = value ∧ rest = tail

theorem Recovers.faithful {α : Type} {read : Reader α} {written : Bytes} {value : α}
    (recovers : Recovers read written value) : Faithful read written value := by
  intro tail found rest reads
  cases reads.symm.trans (recovers tail)
  exact ⟨rfl, rfl⟩

namespace Faithful

variable {α β : Type} {read : Reader α} {first second : Bytes} {a : α} {b : β}

/-- What comes after a value is read behind its bytes. -/
theorem further {further : α × Bytes → Option β} {tail : Bytes} (front : Faithful read first a)
    (reads : (read (first ++ tail)).bind further = some b) : further (a, tail) = some b := by
  obtain ⟨⟨value, rest⟩, head, continued⟩ := Option.bind_eq_some_iff.mp reads
  obtain ⟨rfl, rfl⟩ := front _ _ _ head
  exact continued

theorem bind {f : α → Reader β} (front : Faithful read first a)
    (back : Faithful (f a) second b) :
    Faithful (fun bytes => read bytes >>= fun (a, rest) => f a rest) (first ++ second) b := by
  intro tail found rest reads
  rw [List.append_assoc] at reads
  exact back _ _ _ (front.further reads)

theorem map (front : Faithful read first a) (make : α → β) :
    Faithful (fun bytes => read bytes >>= fun (a, rest) => some (make a, rest)) first (make a) := by
  have made := front.bind (f := fun a bytes => some (make a, bytes))
    (Recovers.pure (make a)).faithful
  rwa [List.append_nil] at made

end Faithful

/-! ## Fields -/

theorem readNat_faithful (top groups n : Nat) : Faithful (readNat top groups) (writeNat n) n := by
  intro tail found rest reads
  induction groups generalizing n found with
  | zero => cases reads
  | succ groups ih =>
      rw [writeNat] at reads
      split at reads
      · next last =>
          have byte : (UInt8.ofNat n).toNat = n := UInt8.toNat_ofNat_of_lt' (show _ < 256 by omega)
          rw [List.singleton_append, readNat, byte, if_pos last] at reads
          split at reads
          · cases reads
          · cases reads
            exact ⟨rfl, rfl⟩
      · next more =>
          have byte : (UInt8.ofNat (n % 128 + 128)).toNat = n % 128 + 128 :=
            UInt8.toNat_ofNat_of_lt' (show _ < 256 by omega)
          rw [List.cons_append, readNat, byte, if_neg (by omega)] at reads
          split at reads
          · next high left inner =>
              cases reads
              obtain ⟨rfl, rfl⟩ := ih _ _ inner
              exact ⟨by omega, rfl⟩
          · cases reads

theorem readNat64_faithful (n : Nat) : Faithful readNat64 (writeNat n) n :=
  readNat_faithful 1 10 n

theorem readInt32_faithful (n : Int) : Faithful readInt32 (writeInt n) n := by
  have unfolded := (readNat_faithful 15 5 (fold n)).map unfold
  rwa [unfold_fold] at unfolded

theorem readText_faithful (text : String) : Faithful readText (writeText text) text := by
  intro tail found rest reads
  simp only [writeText, List.append_assoc] at reads
  replace reads := (readNat64_faithful _).further reads
  replace reads := (take_append _).faithful.further reads
  simp only [Text.ofUtf8?_utf8, Option.bind_eq_bind, Option.bind_some] at reads
  cases reads
  exact ⟨rfl, rfl⟩

section Lists

variable {α : Type} {read : Reader α} {write : α → Bytes}

theorem readMany_faithful (each : ∀ item, Faithful read (write item) item) (items : List α) :
    Faithful (readMany read items.length) (items.flatMap write) items := by
  induction items with
  | nil => exact (Recovers.pure []).faithful
  | cons item others ih =>
      intro tail found rest reads
      rw [List.flatMap_cons, List.append_assoc] at reads
      replace reads := (each item).further reads
      replace reads := ih.further reads
      cases reads
      exact ⟨rfl, rfl⟩

theorem readList_faithful (each : ∀ item, Faithful read (write item) item) (items : List α) :
    Faithful (readList read) (writeList write items) items :=
  (readNat64_faithful items.length).bind (readMany_faithful each items)

end Lists

/-! ## Instructions -/

theorem readLiteral_faithful (value : Literal) :
    Faithful readLiteral (writeLiteral value) value := by
  cases value with
  | text s =>
      have contents : Faithful (readLiteralOf 5) (writeText s) (.text s) :=
        (readText_faithful s).map Literal.text
      exact (readNat32_writeNat (n := 5) (by decide)).faithful.bind contents
  | _ => exact (readLiteral_writeLiteral (by trivial)).faithful

theorem readOp_of_operands {op : Op} {operands : Bytes} (kind : Nat) (known : kind < 54)
    (rest : Faithful (readOperands kind) operands op) :
    Faithful readOp (writeNat kind ++ operands) op :=
  (readNat32_writeNat (n := kind) (by omega)).faithful.bind rest

theorem withText_faithful (text : String) (make : String → Op) :
    Faithful (withText make) (writeText text) (make text) :=
  (readText_faithful text).map make

theorem withSlot_faithful (slot : Nat) (make : Nat → Op) :
    Faithful (withSlot make) (writeNat slot) (make slot) :=
  (readNat64_faithful slot).map make

theorem withOffset_faithful (offset : Int) (make : Int → Op) :
    Faithful (withOffset make) (writeInt offset) (make offset) :=
  (readInt32_faithful offset).map make

theorem readOp_faithful (op : Op) : Faithful readOp (writeOp op) op := by
  cases op with
  | literal value =>
      exact readOp_of_operands 3 (by decide) ((readLiteral_faithful value).map Op.literal)
  | fetchSymbol | fetchField | printText | callFunction | callMethod | callMacro | filter =>
      exact readOp_of_operands _ (by decide) (withText_faithful _ _)
  | loadLocal | saveLocal | loopState | forStart =>
      exact readOp_of_operands _ (by decide) (withSlot_faithful _ _)
  | and | or | goto | jumpIfFalse =>
      exact readOp_of_operands _ (by decide) (withOffset_faithful _ _)
  | forNext slot max exit =>
      have operands : Faithful (readOperands 48) (writeNat slot ++ (writeNat max ++ writeInt exit))
          (.forNext slot max exit) := by
        intro tail found rest reads
        rw [List.append_assoc, List.append_assoc] at reads
        replace reads := (readNat64_faithful _).further reads
        replace reads := (readNat64_faithful _).further reads
        exact withOffset_faithful exit (.forNext slot max) _ _ _ reads
      have read := readOp_of_operands 48 (by decide) operands
      simpa only [writeOp, List.append_assoc] using read
  | loopGuard slot max =>
      have operands : Faithful (readOperands 49) (writeNat slot ++ writeNat max)
          (.loopGuard slot max) := by
        intro tail found rest reads
        rw [List.append_assoc] at reads
        replace reads := (readNat64_faithful _).further reads
        exact withSlot_faithful max (.loopGuard slot) _ _ _ reads
      have read := readOp_of_operands 49 (by decide) operands
      simpa only [writeOp, List.append_assoc] using read
  | _ =>
      refine (readOp_writeOp ?_).faithful
      trivial

/-! ## Whole templates -/

theorem readMacro_faithful (entry : String × MacroCode) :
    Faithful readMacro (writeMacro entry) entry := by
  intro tail found rest reads
  simp only [writeMacro, List.append_assoc] at reads
  replace reads := (readText_faithful _).further reads
  replace reads := (readList_faithful readText_faithful _).further reads
  replace reads := (readList_faithful readOp_faithful _).further reads
  cases reads
  exact ⟨rfl, rfl⟩

theorem readTime_faithful {time : Time} {stamp : Bytes} (written : writeTime? time = some stamp) :
    Faithful readTime stamp time := by
  unfold writeTime? at written
  split at written
  · cases written
  next dated =>
    cases written
    intro tail found rest reads
    rw [List.append_assoc] at reads
    replace reads := (readNat64_faithful _).further reads
    replace reads := (readNat_faithful 15 5 _).further reads
    dsimp only at reads
    split at reads
    · cases reads
      obtain ⟨nanoseconds⟩ := time
      simp only [Time.ofParts, Time.seconds, Time.fraction, Time.mk.injEq, and_true] at dated ⊢
      omega
    · cases reads

theorem read_faithful {code : Code} {bytes : Bytes} (sorted : Dictionary.Sorted code.macros)
    (written : write? code = some bytes) : Faithful read bytes code := by
  obtain ⟨stamp, stamped, parts⟩ := Option.bind_eq_some_iff.mp written
  cases parts
  intro tail found rest reads
  simp only [List.append_assoc] at reads
  replace reads := (readText_faithful _).further reads
  replace reads := (readTime_faithful stamped).further reads
  replace reads := (readList_faithful readOp_faithful _).further reads
  replace reads := (readList_faithful readMacro_faithful _).further reads
  dsimp only at reads
  rw [Dictionary.ofList_of_sorted sorted] at reads
  cases reads
  exact ⟨rfl, rfl⟩

end Wire

/-- What is read from the bytes of code is that code. -/
theorem Code.eq_of_ofBytes {code found : Code} {bytes : Wire.Bytes} {name : String}
    (sorted : Dictionary.Sorted code.macros) (written : code.toBytes = .ok bytes)
    (reads : ofBytes name bytes = .ok found) : found = code := by
  unfold ofBytes Wire.ofBytes? at reads
  split at reads
  · next code' decoded =>
      cases reads
      obtain ⟨⟨_, rest⟩, whole, rfl⟩ := Option.map_eq_some_iff.mp decoded
      rw [← List.append_nil bytes] at whole
      exact (Wire.read_faithful sorted (write?_of_toBytes written) _ _ _ whole).1
  · cases reads

end Stencil

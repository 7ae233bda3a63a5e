import Stencil.Proofs.Template.Literals
import Stencil.Value.Number

/-!
# Exact arithmetic

The integer that a value counts as is said without reading anything: the integer itself, one or
zero for a Boolean, what the digits of a text spell, and zero for whatever holds no number. It is
exactly what the numeric view shows. Sums, differences, products, even quotients and rests are the
mathematical ones wherever an integer kind has room for them, and nothing ever wraps around.
-/

namespace Stencil

/-! ## Spelled integers -/

namespace Decimal

/-- The text is digits, at least one, behind an optional sign, and denotes the integer. -/
inductive Spells : List Char → Int → Prop
  | bare {digits : List Char} (nonempty : digits ≠ []) (each : ∀ c ∈ digits, c.isDigit = true) :
      Spells digits (Nat.ofDigitChars 10 digits 0)
  | plus {digits : List Char} (nonempty : digits ≠ []) (each : ∀ c ∈ digits, c.isDigit = true) :
      Spells ('+' :: digits) (Nat.ofDigitChars 10 digits 0)
  | minus {digits : List Char} (nonempty : digits ≠ []) (each : ∀ c ∈ digits, c.isDigit = true) :
      Spells ('-' :: digits) (-(Nat.ofDigitChars 10 digits 0 : Int))

variable {text : List Char}

theorem digits_of_mapM {values : List Nat} (read : text.mapM digitValue? = some values) :
    ∀ c ∈ text, c.isDigit = true := by
  induction text generalizing values with
  | nil => nofun
  | cons c text ih =>
      rw [List.mapM_cons] at read
      obtain ⟨value, digit, read⟩ := Option.bind_eq_some_iff.mp read
      obtain ⟨values', others, -⟩ := Option.bind_eq_some_iff.mp read
      refine List.forall_mem_cons.mpr ⟨?_, ih others⟩
      unfold digitValue? at digit
      split at digit
      · assumption
      · cases digit

theorem readNat?_eq_some {n : Nat} :
    readNat? text = some n ↔
      text ≠ [] ∧ (∀ c ∈ text, c.isDigit = true) ∧ Nat.ofDigitChars 10 text 0 = n := by
  unfold readNat?
  constructor
  · intro read
    split at read
    · cases read
    · next nonempty =>
      obtain ⟨values, each, -⟩ := Option.map_eq_some_iff.mp read
      have digits := digits_of_mapM each
      rw [map_valueFrom digits] at read
      exact ⟨nonempty, digits, Option.some.inj read⟩
  · rintro ⟨nonempty, digits, rfl⟩
    rw [if_neg nonempty, map_valueFrom digits]

/-- A text of digits does not begin with a sign. -/
theorem takeSign_digits (digits : ∀ c ∈ text, c.isDigit = true) :
    takeSign text = (false, text) := by
  unfold takeSign
  split
  · cases digits '-' List.mem_cons_self
  · cases digits '+' List.mem_cons_self
  · rfl

theorem spells_takeSign (nonempty : (takeSign text).2 ≠ [])
    (digits : ∀ c ∈ (takeSign text).2, c.isDigit = true) :
    Spells text (signed (takeSign text).1 (Nat.ofDigitChars 10 (takeSign text).2 0)) := by
  revert nonempty digits
  unfold takeSign
  split
  · exact .minus
  · exact .plus
  · exact .bare

theorem readInt?_eq_some {n : Int} : readInt? text = some n ↔ Spells text n := by
  constructor
  · intro read
    obtain ⟨number, magnitude, rfl⟩ := Option.map_eq_some_iff.mp read
    obtain ⟨nonempty, digits, rfl⟩ := readNat?_eq_some.mp magnitude
    exact spells_takeSign nonempty digits
  · intro spelled
    cases spelled with
    | bare nonempty digits =>
        rw [readInt?, takeSign_digits digits]
        exact congrArg (Option.map _) (readNat?_eq_some.mpr ⟨nonempty, digits, rfl⟩)
    | plus nonempty digits | minus nonempty digits =>
        exact congrArg (Option.map _) (readNat?_eq_some.mpr ⟨nonempty, digits, rfl⟩)

theorem Spells.unique {m n : Int} (spells : Spells text m) (spells' : Spells text n) : m = n :=
  Option.some.inj ((readInt?_eq_some.mpr spells).symm.trans (readInt?_eq_some.mpr spells'))

theorem spells_of_readInt64? {n : Int64} (read : readInt64? text = some n) :
    Spells text n.toInt := by
  obtain ⟨number, spelled, within⟩ := Option.bind_eq_some_iff.mp read
  split at within
  · next bounds =>
    cases within
    rw [Int64.toInt_ofInt_of_le bounds.1 bounds.2]
    exact readInt?_eq_some.mp spelled
  · cases within

theorem Spells.readInt64? {n : Int} (spells : Spells text n) (least : -0x8000000000000000 ≤ n)
    (greatest : n < 0x8000000000000000) :
    Decimal.readInt64? text = some (Int64.ofInt n) := by
  rw [Decimal.readInt64?, readInt?_eq_some.mpr spells, Option.bind_eq_bind, Option.bind_some,
    if_pos ⟨least, greatest⟩]

theorem Spells.readInt64?_outside {n : Int} (spells : Spells text n)
    (outside : 0x8000000000000000 ≤ n) : Decimal.readInt64? text = none := by
  rw [Decimal.readInt64?, readInt?_eq_some.mpr spells, Option.bind_eq_bind, Option.bind_some,
    if_neg (by omega)]

/-- The digits behind a plus sign, or all of the text. -/
def withoutPlus : List Char → List Char
  | '+' :: rest => rest
  | text => text

theorem readUInt64?_eq (text : List Char) :
    Decimal.readUInt64? text = (readNat? (withoutPlus text)).bind fun n =>
      if n < 0x10000000000000000 then some (UInt64.ofNat n) else none :=
  rfl

theorem spells_withoutPlus (nonempty : withoutPlus text ≠ [])
    (digits : ∀ c ∈ withoutPlus text, c.isDigit = true) :
    Spells text (Nat.ofDigitChars 10 (withoutPlus text) 0) := by
  revert nonempty digits
  unfold withoutPlus
  split
  · exact .plus
  · exact .bare

theorem spells_of_readUInt64? {n : UInt64} (read : readUInt64? text = some n) :
    Spells text n.toNat := by
  rw [readUInt64?_eq] at read
  obtain ⟨number, magnitude, within⟩ := Option.bind_eq_some_iff.mp read
  obtain ⟨nonempty, digits, rfl⟩ := readNat?_eq_some.mp magnitude
  split at within
  · next below =>
    rw [← Option.some.inj within, UInt64.toNat_ofNat_of_lt' below]
    exact spells_withoutPlus nonempty digits
  · cases within

theorem Spells.readUInt64? {n : Int} (spells : Spells text n) (positive : 0 < n)
    (greatest : n < 0x10000000000000000) :
    Decimal.readUInt64? text = some (UInt64.ofNat n.toNat) := by
  have magnitude : readNat? (withoutPlus text) = some n.toNat := by
    cases spells with
    | bare nonempty digits =>
        have signless : withoutPlus text = text := by
          unfold withoutPlus
          split
          · cases digits '+' List.mem_cons_self
          · rfl
        rw [signless]
        exact readNat?_eq_some.mpr ⟨nonempty, digits, rfl⟩
    | plus nonempty digits => exact readNat?_eq_some.mpr ⟨nonempty, digits, rfl⟩
    | minus nonempty digits => omega
  rw [readUInt64?_eq, magnitude, Option.bind_some, if_pos (by omega)]

end Decimal

/-! ## The integer that a value counts as -/

open Value (leastInt greatestInt greatestUInt)

namespace Number

variable {text : List Char}

theorem spells_of_read? {number : Number} {n : Int} (read : read? text = some number)
    (integer : number.toInt? = some n) : Decimal.Spells text n := by
  unfold read? at read
  split at read
  · next signed =>
    cases read
    cases integer
    exact Decimal.spells_of_readInt64? signed
  · split at read
    · next unsigned =>
      cases read
      cases integer
      exact Decimal.spells_of_readUInt64? unsigned
    · obtain ⟨x, -, rfl⟩ := Option.map_eq_some_iff.mp read
      cases integer

theorem read?_of_spells {n : Int} (spells : Decimal.Spells text n) (least : leastInt ≤ n)
    (greatest : n ≤ greatestUInt) :
    ∃ number, read? text = some number ∧ number.toInt? = some n := by
  unfold leastInt at least
  unfold greatestUInt at greatest
  unfold read?
  rcases Int.lt_or_le n 0x8000000000000000 with small | large
  · rw [spells.readInt64? least small]
    exact ⟨_, rfl, congrArg some (Int64.toInt_ofInt_of_le least small)⟩
  · rw [spells.readInt64?_outside large, spells.readUInt64? (by omega) (by omega)]
    refine ⟨_, rfl, congrArg some ?_⟩
    rw [UInt64.toNat_ofNat_of_lt' (show n.toNat < 2 ^ 64 by omega)]
    omega

/-- An integer of either kind lies between the least signed and the greatest unsigned one. -/
theorem toInt?_bounds {number : Number} {n : Int} (integer : number.toInt? = some n) :
    leastInt ≤ n ∧ n ≤ greatestUInt := by
  unfold leastInt greatestUInt
  cases number with
  | int m =>
      cases integer
      have := m.le_toInt
      have := m.toInt_lt
      omega
  | uint m =>
      cases integer
      have := m.toNat_lt
      omega
  | float x => cases integer

theorem isZero_iff {number : Number} {n : Int} (integer : number.toInt? = some n) :
    number.isZero = true ↔ n = 0 := by
  cases number with
  | int m =>
      cases integer
      exact beq_iff_eq.trans Int64.toInt_inj.symm
  | uint m =>
      cases integer
      rw [Int.natCast_eq_zero]
      exact beq_iff_eq.trans UInt64.toNat_inj.symm
  | float x => cases integer

end Number

namespace Value

/-- The value counts as the integer. Texts count as what they spell when the blanks around it are
gone, if an integer kind has room for it, and as zero if they hold no number at all. -/
inductive Counts : Value → Int → Prop
  | int (n : Int64) : Counts (.int n) n.toInt
  | uint (n : UInt64) : Counts (.uint n) n.toNat
  | bool (b : Bool) : Counts (.bool b) (if b then 1 else 0)
  | spelled {value : Value} {s : String} {n : Int} (holds : value.text? = some s)
      (spells : Decimal.Spells (Text.trim s.toList) n) (least : leastInt ≤ n)
      (greatest : n ≤ greatestUInt) : Counts value n
  | unread {value : Value} {s : String} (holds : value.text? = some s)
      (wordless : Number.read? (Text.trim s.toList) = none) : Counts value 0
  | nil : Counts .nil 0
  | list (items : List Value) : Counts (.list items) 0
  | map (entries : List (String × Value)) : Counts (.map entries) 0
  | object (identity : Identity) (state : Object) : Counts (.object identity state) 0

theorem toNumber_of_text? {value : Value} {s : String} (holds : value.text? = some s) :
    value.toNumber = (Number.read? (Text.trim s.toList)).getD (.int 0) := by
  cases value <;> first | cases holds; rfl | cases holds

theorem counts_of_text {value : Value} {s : String} {n : Int} (holds : value.text? = some s)
    (view : value.toNumber.toInt? = some n) : value.Counts n := by
  rw [toNumber_of_text? holds] at view
  cases read : Number.read? (Text.trim s.toList) with
  | none =>
      rw [read] at view
      cases view
      exact .unread holds read
  | some number =>
      rw [read] at view
      have bounds := Number.toInt?_bounds view
      exact .spelled holds (Number.spells_of_read? read view) bounds.1 bounds.2

/-- What a value counts as is what its numeric view shows, where that is an integer. -/
theorem counts_iff {value : Value} {n : Int} :
    value.Counts n ↔ value.toNumber.toInt? = some n := by
  constructor
  · intro counts
    cases counts with
    | int | uint | nil | list | map | object => rfl
    | bool b => cases b <;> rfl
    | spelled holds spells least greatest =>
        obtain ⟨number, read, integer⟩ := Number.read?_of_spells spells least greatest
        rw [toNumber_of_text? holds, read]
        exact integer
    | unread holds wordless =>
        rw [toNumber_of_text? holds, wordless]
        rfl
  · intro view
    cases value with
    | nil => cases view; exact .nil
    | bool b =>
        cases b with
        | false => cases view; exact .bool false
        | true => cases view; exact .bool true
    | int m => cases view; exact .int m
    | uint m => cases view; exact .uint m
    | float x => cases view
    | text s => exact counts_of_text (s := s) rfl view
    | raw s => exact counts_of_text (s := s) rfl view
    | list items => cases view; exact .list items
    | map entries => cases view; exact .map entries
    | object identity state => cases view; exact .object identity state

/-! ## Results -/

/-- The value is an integer of either kind, and this one. -/
def Holds : Value → Int → Prop
  | .int m, n => m.toInt = n
  | .uint m, n => m.toNat = n
  | _, _ => False

/-- The value is a float, whichever. -/
def IsFloat : Value → Prop
  | .float _ => True
  | _ => False

/-- The value is the integer where an integer kind has room for it, and a float elsewhere. -/
def Fits (value : Value) (n : Int) : Prop :=
  if leastInt ≤ n ∧ n ≤ greatestUInt then value.Holds n else value.IsFloat

theorem holds_ofNat {n : Int} (natural : 0 ≤ n) (greatest : n ≤ greatestUInt) :
    (uint (UInt64.ofNat n.toNat)).Holds n := by
  unfold greatestUInt at greatest
  show ((UInt64.ofNat n.toNat).toNat : Int) = n
  rw [UInt64.toNat_ofNat_of_lt' (show n.toNat < 2 ^ 64 by omega)]
  omega

/-- Whichever kind is preferred, an integer that has room in one of them is kept. -/
theorem fits_ofInteger (n : Int) (unsigned : Bool) : (ofInteger n unsigned).Fits n := by
  unfold Fits ofInteger
  split
  · next room =>
    split
    · next asked => exact holds_ofNat asked.2.1 asked.2.2
    · split
      · next small =>
        unfold leastInt greatestInt at small
        exact Int64.toInt_ofInt_of_le small.1 (by omega)
      · next large =>
        have natural : 0 ≤ n := by
          unfold leastInt greatestInt at large
          unfold leastInt at room
          omega
        rw [if_pos ⟨natural, room.2⟩]
        exact holds_ofNat natural room.2
  · next outside =>
    unfold leastInt greatestUInt at outside
    unfold leastInt greatestInt greatestUInt
    rw [if_neg (by omega), if_neg (by omega), if_neg (by omega)]
    trivial

section

variable {left right : Value} {x y : Int}

/-- Intermediate integers may leave the range that is computed exactly, but only far outside of
what the integer kinds have room for. -/
theorem fits_combine (exact : Int → Int → Int) (approximate : Float → Float → Float)
    (counts : left.Counts x) (counts' : right.Counts y) :
    (combine exact approximate left right).Fits (exact x y) := by
  unfold combine
  dsimp only
  rw [counts_iff.mp counts, counts_iff.mp counts']
  dsimp only
  split
  · exact fits_ofInteger _ _
  · next far =>
    have outside : ¬(leastInt ≤ exact x y ∧ exact x y ≤ greatestUInt) := by
      unfold isExact at far
      unfold leastInt greatestUInt
      simp only [Bool.and_eq_true, decide_eq_true_eq] at far
      omega
    rw [Fits, if_neg outside]
    trivial

theorem isZero_toNumber (counts : right.Counts y) : right.toNumber.isZero = true ↔ y = 0 :=
  Number.isZero_iff (counts_iff.mp counts)

theorem div_eq (counts : left.Counts x) (counts' : right.Counts y) (nonzero : y ≠ 0) :
    ∃ quotient, left.div right = .ok quotient ∧
      if y ∣ x then quotient.Fits (x / y) else quotient.IsFloat := by
  have started : ¬right.toNumber.isZero = true := mt (isZero_toNumber counts').mp nonzero
  unfold div
  dsimp only
  rw [if_neg started, counts_iff.mp counts, counts_iff.mp counts']
  dsimp only
  rcases Decidable.em (y ∣ x) with divides | uneven
  · rw [if_pos (Int.tmod_eq_zero_of_dvd divides), Int.tdiv_eq_ediv_of_dvd divides]
    refine ⟨_, rfl, ?_⟩
    rw [if_pos divides]
    exact fits_ofInteger _ _
  · rw [if_neg (mt Int.dvd_of_tmod_eq_zero uneven)]
    refine ⟨_, rfl, ?_⟩
    rw [if_neg uneven]
    trivial

theorem tmod_nonpos (y : Int) (negative : x ≤ 0) : x.tmod y ≤ 0 := by
  have mirrored := Int.tmod_nonneg y (Int.neg_nonneg_of_nonpos negative)
  rw [Int.neg_tmod] at mirrored
  omega

/-- The rest is no larger than what is divided, so there is always room for it. -/
theorem tmod_bounds (counts : left.Counts x) (y : Int) :
    leastInt ≤ x.tmod y ∧ x.tmod y ≤ greatestUInt := by
  have bounds := Number.toInt?_bounds (counts_iff.mp counts)
  unfold leastInt greatestUInt at *
  have small : (x.tmod y).natAbs ≤ x.natAbs := by
    rw [Int.natAbs_tmod]
    exact Nat.mod_le _ _
  rcases Int.le_total 0 x with positive | negative
  · have := Int.tmod_nonneg y positive
    omega
  · have := tmod_nonpos y negative
    omega

theorem sign_tmod (x y : Int) : x.tmod y = 0 ∨ (x.tmod y).sign = x.sign := by
  rcases Int.lt_trichotomy x 0 with negative | rfl | positive
  · have := tmod_nonpos y (Int.le_of_lt negative)
    rw [Int.sign_eq_neg_one_of_neg negative]
    rcases Int.lt_or_eq_of_le this with below | zero
    · exact .inr (Int.sign_eq_neg_one_of_neg below)
    · exact .inl zero
  · exact .inl (Int.zero_tmod y)
  · have := Int.tmod_nonneg y (Int.le_of_lt positive)
    rw [Int.sign_eq_one_of_pos positive]
    rcases Int.lt_or_eq_of_le this with above | zero
    · exact .inr (Int.sign_eq_one_of_pos above)
    · exact .inl zero.symm

theorem rem_eq (counts : left.Counts x) (counts' : right.Counts y) (nonzero : y ≠ 0) :
    ∃ rest, left.rem right = .ok rest ∧ rest.Holds (x.tmod y) := by
  have started : ¬right.toNumber.isZero = true := mt (isZero_toNumber counts').mp nonzero
  unfold rem
  dsimp only
  rw [if_neg started, counts_iff.mp counts, counts_iff.mp counts']
  refine ⟨_, rfl, ?_⟩
  have fits := fits_ofInteger (x.tmod y) (left.toNumber.isUnsigned && right.toNumber.isUnsigned)
  rw [Fits, if_pos (tmod_bounds counts y)] at fits
  exact fits

/-- Sums, differences and products of integers are the mathematical ones, as integers where there
is room for them and as floats elsewhere. Only zero cannot be divided by. An even quotient is an
integer where there is room for it, all others are floats, and a rest is always an integer: smaller
than the divisor, short of the dividend by a multiple of the divisor, and of the dividend's sign. -/
theorem arithmetic_exact (counts : left.Counts x) (counts' : right.Counts y) :
    (left.add right).Fits (x + y) ∧ (left.sub right).Fits (x - y) ∧
      (left.mul right).Fits (x * y) ∧
      (y = 0 → left.div right = .error .divisionByZero ∧ left.rem right = .error .moduloByZero) ∧
      (y ≠ 0 →
        (∃ quotient, left.div right = .ok quotient ∧
          if y ∣ x then quotient.Fits (x / y) else quotient.IsFloat) ∧
        ∃ rest r, left.rem right = .ok rest ∧ rest.Holds r ∧ r.natAbs < y.natAbs ∧ y ∣ x - r ∧
          (r = 0 ∨ r.sign = x.sign)) := by
  refine ⟨fits_combine _ _ counts counts', fits_combine _ _ counts counts',
    fits_combine _ _ counts counts', fun zero => ?_, fun nonzero => ⟨?_, ?_⟩⟩
  · have stopped := (isZero_toNumber counts').mpr zero
    exact ⟨if_pos stopped, if_pos stopped⟩
  · exact div_eq counts counts' nonzero
  · obtain ⟨rest, result, holds⟩ := rem_eq counts counts' nonzero
    refine ⟨rest, _, result, holds, ?_, ?_, sign_tmod x y⟩
    · rw [Int.natAbs_tmod]
      exact Nat.mod_lt _ (Int.natAbs_pos.mpr nonzero)
    · exact Int.dvd_self_sub_of_tmod_eq rfl

/-- The least integer, read from a text: its product with the greatest unsigned one is far out of
range, and its quotient by minus one is even but no signed integer. -/
theorem arithmetic_exact_extremes :
    ((text " -9223372036854775808\n").mul (uint 0xffffffffffffffff)).IsFloat ∧
      ∃ quotient, (text " -9223372036854775808\n").div (raw "-1") = .ok quotient ∧
        quotient.Holds 0x8000000000000000 := by
  have least : (text " -9223372036854775808\n").Counts (-0x8000000000000000) :=
    counts_iff.mpr (by decide +kernel)
  have minusOne : (raw "-1").Counts (-1) := counts_iff.mpr (by decide +kernel)
  have product := (arithmetic_exact least (.uint 0xffffffffffffffff)).2.2.1
  rw [Fits, if_neg (by decide)] at product
  obtain ⟨quotient, result, fits⟩ := ((arithmetic_exact least minusOne).2.2.2.2 (by decide)).1
  rw [if_pos (by decide), Fits, if_pos (by decide)] at fits
  exact ⟨product, quotient, result, fits⟩

end

end Value

end Stencil

import Stencil.Proofs.Text.Search
import Stencil.Proofs.Text.Words
import Stencil.Proofs.Token.Steps

/-!
# Numerals

Numbers as they are written inside tags. In front of a blank or a comment, each is found with its
whole length.
-/

namespace Stencil.Token

open Unicode (isBlank isWordChar)

structure Digits where
  chars : List Char
  nonempty : chars ≠ []
  digits : ∀ c ∈ chars, c.isDigit = true

structure Exponent where
  mark : Char
  marked : mark = 'e' ∨ mark = 'E'
  sign : List Char
  signed : sign = [] ∨ sign = ['-'] ∨ sign = ['+']
  size : Digits

inductive Numeral where
  | decimal (whole : Digits) (fraction : Option Digits) (exponent : Option Exponent)
  | hex (mark : Char) (marked : mark = 'x' ∨ mark = 'X') (digits : List Char)
      (nonempty : digits ≠ []) (members : ∀ c ∈ digits, isHexDigit c = true)

namespace Numeral

def fractionText : Option Digits → List Char
  | none => []
  | some digits => '.' :: digits.chars

def exponentText : Option Exponent → List Char
  | none => []
  | some exponent => exponent.mark :: (exponent.sign ++ exponent.size.chars)

def written : Numeral → List Char
  | decimal whole fraction exponent =>
      whole.chars ++ (fractionText fraction ++ exponentText exponent)
  | hex mark _ digits _ _ => '0' :: mark :: digits

/-- Nothing but decimal digits. -/
def IsPlain : Numeral → Prop
  | decimal _ none none => True
  | _ => False

end Numeral

/-- A text that begins with what separates tokens. -/
def Separated (text : List Char) : Prop :=
  ∃ c rest, text = c :: rest ∧ (isBlank c = true ∨ c = '#')

namespace Separated

variable {after : List Char}

theorem head (separated : Separated after) {p : Char → Bool}
    (none : ∀ c, isBlank c = true → p c = false) (unmarked : p '#' = false) :
    after.head?.any p = false := by
  obtain ⟨c, rest, rfl, blank | rfl⟩ := separated
  · exact none c blank
  · exact unmarked

theorem isWordChar (separated : Separated after) : after.head?.any isWordChar = false :=
  separated.head (fun _ => Unicode.isWordChar_of_isBlank) (by decide)

theorem isDigit (separated : Separated after) : after.head?.any Char.isDigit = false :=
  separated.head (fun _ => Unicode.isDigit_of_isBlank) rfl

theorem isHexDigit (separated : Separated after) : after.head?.any isHexDigit = false :=
  separated.head (fun _ => Unicode.eq_false_of_isBlank (by decide)) rfl

/-- What separates tokens is part of none that has neither blanks nor number signs. -/
theorem prefix_of_append (separated : Separated after) {target text : List Char}
    (dense : ∀ c ∈ target, isBlank c = false ∧ c ≠ '#') (starts : target <+: text ++ after) :
    target <+: text := by
  obtain ⟨c, rest, rfl, separates⟩ := separated
  refine Text.prefix_of_append_cons (fun inside => ?_) starts
  obtain ⟨unblank, unmarked⟩ := dense c inside
  rcases separates with blank | marked
  · rw [unblank] at blank
    cases blank
  · exact unmarked marked

end Separated

variable {after : List Char}

/-! ## Runs -/

theorem takeWhile_append_of_stops {p : Char → Bool} {run : List Char} (members : ∀ c ∈ run, p c = true)
    (stops : after.head?.any p = false) : (run ++ after).takeWhile p = run := by
  rw [List.takeWhile_append_of_pos members]
  cases after with
  | nil => exact List.append_nil run
  | cons first rest =>
      rw [List.takeWhile_cons_of_neg (by simpa using stops)]
      exact List.append_nil run

theorem dropWhile_append_of_stops {p : Char → Bool} {run : List Char} (members : ∀ c ∈ run, p c = true)
    (stops : after.head?.any p = false) : (run ++ after).dropWhile p = after := by
  rw [List.dropWhile_append_of_pos members]
  cases after with
  | nil => rfl
  | cons first rest => exact List.dropWhile_cons_of_neg (by simpa using stops)

theorem runSize_append {p : Char → Bool} {run : List Char} (members : ∀ c ∈ run, p c = true)
    (stops : after.head?.any p = false) : runSize p (run ++ after) = run.length := by
  rw [runSize, takeWhile_append_of_stops members stops]

/-! ## Numbers -/

theorem signSize_of_isDigit {first : Char} {rest : List Char} (digit : first.isDigit = true) :
    signSize (first :: rest) = 0 := by
  unfold signSize
  split
  · next same =>
      cases same
      cases digit
  · next same =>
      cases same
      cases digit
  · rfl

section

variable {last : Option Kind} {first : Char} {rest : List Char}

theorem number?_of_isDigit (digit : first.isDigit = true) :
    number? last (first :: rest) =
      if last = some .dot then
        some (.ok ⟨.number, (first :: rest).take (runSize Char.isDigit (first :: rest)),
          runSize Char.isDigit (first :: rest)⟩)
      else some ((loneNumberSize (first :: rest)).map fun size =>
        ⟨.number, (first :: rest).take size, size⟩) :=
  if_pos digit

theorem number?_of_dash (digits : rest.head?.any Char.isDigit = true)
    (starts : last.any Kind.endsOperand = false) :
    number? last ('-' :: rest) = some ((loneNumberSize ('-' :: rest)).map fun size =>
      ⟨.number, ('-' :: rest).take size, size⟩) := by
  have undigit : '-'.isDigit = false := rfl
  simp only [number?, undigit, digits, starts]
  rfl

theorem number?_eq_none (undigit : first.isDigit = false)
    (unsigned : (first = '-' ∨ first = '+') → rest.head?.any Char.isDigit = false) :
    number? last (first :: rest) = none := by
  simp only [number?, undigit]
  by_cases sign : first = '-' ∨ first = '+'
  · simp [unsigned sign]
  · obtain ⟨unminus, unplus⟩ := not_or.mp sign
    simp [unminus, unplus]

end

namespace Digits

theorem length_eq (digits : Digits) : ∃ size, digits.chars.length = size + 1 :=
  Nat.exists_eq_succ_of_ne_zero (mt List.length_eq_zero_iff.mp digits.nonempty)

theorem exists_cons (digits : Digits) :
    ∃ first rest, digits.chars = first :: rest ∧ first.isDigit = true := by
  obtain ⟨first, rest, same⟩ := List.exists_cons_of_ne_nil digits.nonempty
  exact ⟨first, rest, same, digits.digits first (by rw [same]; exact List.mem_cons_self)⟩

theorem signSize_append (digits : Digits) (after : List Char) :
    signSize (digits.chars ++ after) = 0 := by
  obtain ⟨first, rest, same, digit⟩ := digits.exists_cons
  rw [same]
  exact signSize_of_isDigit digit

theorem runSize_append (digits : Digits) (stops : after.head?.any Char.isDigit = false) :
    runSize Char.isDigit (digits.chars ++ after) = digits.chars.length :=
  Token.runSize_append digits.digits stops

end Digits

namespace Numeral

variable (fraction : Option Digits) (exponent : Option Exponent)

theorem exponentSize_written (separated : Separated after) :
    exponentSize (exponentText exponent ++ after) = .ok (exponentText exponent).length := by
  cases exponent with
  | none =>
      obtain ⟨c, rest, rfl, separates⟩ := separated
      have unmarked : ¬(c = 'e' ∨ c = 'E') := by
        rintro (rfl | rfl) <;> rcases separates with blank | ⟨⟨⟩⟩ <;> cases blank
      exact if_neg unmarked
  | some exponent =>
      obtain ⟨mark, marked, sign, signed, size⟩ := exponent
      obtain ⟨count, length⟩ := size.length_eq
      have signs : signSize (sign ++ (size.chars ++ after)) = sign.length := by
        rcases signed with rfl | rfl | rfl
        · exact size.signSize_append after
        · rfl
        · rfl
      simp only [exponentText, List.cons_append, List.append_assoc, exponentSize, if_pos marked,
        signs, List.drop_left, size.runSize_append separated.isDigit, length]
      simp only [List.length_cons, List.length_append, length]
      congr 1
      omega

/-- Neither a digit nor a point comes behind the digits of a number, unless its fraction does. -/
theorem exponentText_stops (separated : Separated after) :
    ∃ c rest, exponentText exponent ++ after = c :: rest ∧ c.isDigit = false ∧ c ≠ '.' ∧ c ≠ 'x' ∧
      c ≠ 'X' := by
  cases exponent with
  | none =>
      obtain ⟨c, rest, rfl, blank | rfl⟩ := separated
      · exact ⟨c, rest, rfl, Unicode.isDigit_of_isBlank blank, Unicode.ne_of_isBlank blank rfl,
          Unicode.ne_of_isBlank blank rfl, Unicode.ne_of_isBlank blank rfl⟩
      · exact ⟨'#', rest, rfl, rfl, by decide⟩
  | some exponent =>
      obtain ⟨mark, marked, sign, signed, size⟩ := exponent
      rcases marked with rfl | rfl
      · exact ⟨'e', sign ++ size.chars ++ after, rfl, rfl, by decide⟩
      · exact ⟨'E', sign ++ size.chars ++ after, rfl, rfl, by decide⟩

theorem fractionSize_written (separated : Separated after) :
    fractionSize (fractionText fraction ++ (exponentText exponent ++ after)) =
      (fractionText fraction).length := by
  obtain ⟨c, rest, same, undigit, unpoint, -⟩ := exponentText_stops exponent separated
  rw [same]
  cases fraction with
  | none =>
      show fractionSize (c :: rest) = 0
      unfold fractionSize
      split
      · next same => exact absurd (List.cons.inj same).1 unpoint
      · rfl
  | some digits =>
      obtain ⟨count, length⟩ := digits.length_eq
      have size : runSize Char.isDigit (digits.chars ++ c :: rest) = digits.chars.length :=
        digits.runSize_append undigit
      simp [fractionText, fractionSize, size, length]

theorem fractionText_stops (separated : Separated after) :
    ∃ c rest, fractionText fraction ++ (exponentText exponent ++ after) = c :: rest ∧
      c.isDigit = false ∧ c ≠ 'x' ∧ c ≠ 'X' := by
  cases fraction with
  | none =>
      obtain ⟨c, rest, same, undigit, -, unmarked⟩ := exponentText_stops exponent separated
      exact ⟨c, rest, same, undigit, unmarked⟩
  | some digits => exact ⟨'.', digits.chars ++ (exponentText exponent ++ after), rfl, rfl, by decide⟩

theorem decimalSize_written (whole : Digits) (separated : Separated after) :
    decimalSize ((decimal whole fraction exponent).written ++ after) =
      .ok (decimal whole fraction exponent).written.length := by
  obtain ⟨c, rest, same, undigit, -⟩ := fractionText_stops fraction exponent separated
  have integral : runSize Char.isDigit (whole.chars ++ c :: rest) = whole.chars.length :=
    whole.runSize_append undigit
  have fractional := fractionSize_written fraction exponent separated
  have exponential := exponentSize_written exponent separated
  rw [written, List.append_assoc, List.append_assoc]
  simp only [decimalSize, ← List.drop_drop]
  rw [same, integral, List.drop_left, ← same, fractional, List.drop_left, exponential,
    List.length_append, List.length_append, ← Nat.add_assoc]
  rfl

variable (negative : Bool) (numeral : Numeral)

theorem exists_cons : ∃ first rest, numeral.written = first :: rest ∧ first.isDigit = true := by
  cases numeral with
  | decimal whole fraction exponent =>
      obtain ⟨first, rest, same, digit⟩ := whole.exists_cons
      exact ⟨first, _, by rw [written, same]; rfl, digit⟩
  | hex mark marked digits nonempty members => exact ⟨'0', _, rfl, rfl⟩

/-- The mark of a hexadecimal number is at the second place of no other. -/
theorem not_hex (whole : Digits) (separated : Separated after) {mark : Char} {rest : List Char}
    (marked : mark = 'x' ∨ mark = 'X') :
    (decimal whole fraction exponent).written ++ after ≠ '0' :: mark :: rest := by
  intro same
  obtain ⟨c, behind, stops, undigit, unmarked⟩ := fractionText_stops fraction exponent separated
  rw [written, List.append_assoc, List.append_assoc, stops] at same
  cases inside : whole.chars with
  | nil => exact whole.nonempty inside
  | cons first more =>
      rw [inside] at same
      obtain ⟨-, same⟩ := List.cons.inj same
      cases more with
      | nil =>
          obtain ⟨rfl, -⟩ := List.cons.inj same
          rcases marked with rfl | rfl
          · exact unmarked.1 rfl
          · exact unmarked.2 rfl
      | cons second more =>
          obtain ⟨rfl, -⟩ := List.cons.inj same
          have digit := whole.digits second (by rw [inside]; simp)
          rcases marked with rfl | rfl <;> cases digit

theorem signSize_written (after : List Char) :
    signSize (dash negative ++ numeral.written ++ after) = (dash negative).length := by
  cases negative with
  | false =>
      obtain ⟨first, rest, same, digit⟩ := numeral.exists_cons
      rw [same]
      exact signSize_of_isDigit digit
  | true => rfl

theorem numberSize_written (separated : Separated after) :
    numberSize (dash negative ++ numeral.written ++ after) =
      .ok (dash negative ++ numeral.written).length := by
  rw [numberSize, signSize_written, List.append_assoc, List.drop_left, List.length_append]
  cases numeral with
  | decimal whole fraction exponent =>
      split
      · next same => exact absurd same (not_hex fraction exponent whole separated (.inl rfl))
      · next same => exact absurd same (not_hex fraction exponent whole separated (.inr rfl))
      · rw [decimalSize_written fraction exponent whole separated]
        rfl
  | hex mark marked digits nonempty members =>
      have size : hexSize (digits ++ after) = .ok digits.length := by
        obtain ⟨count, length⟩ :=
          Nat.exists_eq_succ_of_ne_zero (mt List.length_eq_zero_iff.mp nonempty)
        rw [hexSize, runSize_append members separated.isHexDigit, length]
        rfl
      rcases marked with rfl | rfl
      all_goals
        simp only [written, List.cons_append, size, List.length_cons]
        show Except.ok _ = Except.ok _
        rw [Nat.add_assoc, Nat.add_comm 2]

theorem loneNumberSize_written (separated : Separated after) :
    loneNumberSize (dash negative ++ numeral.written ++ after) =
      .ok (dash negative ++ numeral.written).length := by
  rw [loneNumberSize, numberSize_written negative numeral separated]
  show (if (((dash negative ++ numeral.written) ++ after).drop
    (dash negative ++ numeral.written).length).head?.any isWordChar then _ else _) = _
  rw [List.drop_left, separated.isWordChar]
  rfl

/-- Behind a dot a number is the index of an element, behind an operand a dash is an operator. -/
def Follows (last : Option Kind) (negative : Bool) (numeral : Numeral) : Prop :=
  match negative with
  | false => last = some .dot → numeral.IsPlain
  | true => last.any Kind.endsOperand = false

theorem number?_written {last : Option Kind} (separated : Separated after)
    (follows : Follows last negative numeral) :
    number? last (dash negative ++ numeral.written ++ after) =
      some (.ok ⟨.number, dash negative ++ numeral.written,
        (dash negative ++ numeral.written).length⟩) := by
  have lone := loneNumberSize_written negative numeral separated
  have taken : ((dash negative ++ numeral.written) ++ after).take
      (dash negative ++ numeral.written).length = dash negative ++ numeral.written :=
    List.take_left
  obtain ⟨first, rest, same, digit⟩ := numeral.exists_cons
  cases negative with
  | false =>
      rw [show dash false ++ numeral.written = numeral.written from rfl] at lone taken ⊢
      rw [same, List.cons_append, number?_of_isDigit digit, ← List.cons_append, ← same]
      split
      · next dotted =>
          cases numeral with
          | hex => exact (follows dotted).elim
          | decimal whole fraction exponent =>
              obtain ⟨rfl, rfl⟩ : fraction = none ∧ exponent = none := by
                cases fraction <;> cases exponent <;> first | exact ⟨rfl, rfl⟩ | cases follows dotted
              have plain : (decimal whole none none).written = whole.chars := List.append_nil _
              rw [plain] at taken ⊢
              rw [whole.runSize_append separated.isDigit, taken]
      · rw [lone]
        show some (Except.ok (Piece.mk _ _ _)) = _
        rw [taken]
  | true =>
      have minus : dash true ++ numeral.written ++ after = '-' :: (numeral.written ++ after) := rfl
      have digits : (numeral.written ++ after).head?.any Char.isDigit = true := by
        rw [same]
        exact digit
      rw [minus] at lone taken ⊢
      rw [number?_of_dash digits follows, lone]
      show some (Except.ok (Piece.mk _ _ _)) = _
      rw [taken]

end Numeral

end Stencil.Token

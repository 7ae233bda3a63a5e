import Stencil.Proofs.Compilation.Pages
import Stencil.Proofs.Text.Escaped

/-!
# Integers as they are written

A tag with nothing but an integer prints the integer, if that is in the range of how it is written,
and is otherwise refused.
-/

namespace Stencil

open Token (Digits HexDigits Lexeme Numeral)

/-! ## Numerals -/

theorem entity?_of_isDigit {c : Char} (digit : c.isDigit = true) : Text.Html.entity? c = none := by
  unfold Text.Html.entity?
  split
  all_goals first
    | rfl
    | cases digit

theorem not_special_repr (n : Nat) : ¬ Text.Html.Special n.repr.toList := by
  rintro ⟨c, inside, special⟩
  refine special (entity?_of_isDigit ?_)
  have digits : n.repr.toList = Nat.toDigits 10 n := String.toList_ofList
  rw [digits] at inside
  exact Nat.isDigit_of_mem_toDigits (b := 10) (by decide) (by decide) inside

/-- A numeral is printed as it is. -/
theorem escape_toString (n : Int) : Text.Html.escape (toString n) = toString n := by
  refine Text.Html.escape_of_not_special ?_
  cases n with
  | ofNat n => exact not_special_repr n
  | negSucc n =>
      rintro ⟨c, inside, special⟩
      have shown : (toString (Int.negSucc n)).toList = '-' :: n.succ.repr.toList := by
        show ("-" ++ n.succ.repr).toList = _
        rw [String.toList_append]
        rfl
      rw [shown] at inside
      obtain rfl | digit := List.mem_cons.mp inside
      · exact special rfl
      · exact not_special_repr _ ⟨c, digit, special⟩

/-! ## Pages of one number -/

namespace Machine

/-- Whatever it is compiled and run with, a text prints something and ends, without warnings. -/
def Prints (source shown : String) : Prop :=
  ∀ (σ : Type) (optimize : Bool) (now : Time) (name : String) (environment : Environment σ)
    (store : σ), ∃ code, compileSource .standard optimize now name source = .ok code ∧
      Ends environment code store ⟨.finished, shown, []⟩ store

/-- A text is no template, by the grammar. -/
def Ungrammatical (source : String) : Prop :=
  ∀ optimize now name, ∃ problem,
    compileSource .standard optimize now name source = .error (.grammar problem)

/-- Code that prints a literal other than nil and text ends with its text. -/
theorem ends_literal {σ : Type} (environment : Environment σ) (name : String) (now : Time)
    (store : σ) {value : Literal} {shown : String}
    (printed : ∀ state : State σ, state.accumulator = ofLiteral value → state.captures = [] →
      printAccumulator state = { state with output := state.output ++ shown }) :
    Ends environment (printing name now [.literal value]) store ⟨.finished, shown, []⟩ store := by
  let loaded := (start (printing name now [.literal value]) store).yield (ofLiteral value)
  let written := { loaded with output := loaded.output ++ shown }.advance
  have first : step environment (start (printing name now [.literal value]) store) =
      .running loaded := rfl
  have second : step environment loaded = .running written :=
    congrArg (fun state : State σ => Outcome.running state.advance) (printed loaded rfl rfl)
  have third : step environment written = .finished written := rfl
  have ran : runFor environment 3 (start (printing name now [.literal value]) store) =
      .finished written := by
    rw [runFor, first]
    show runFor environment 2 loaded = _
    rw [runFor, second]
    show runFor environment 1 written = _
    rw [runFor, third]
  refine ⟨3, ?_, ?_, ?_⟩
  · rw [ran]
    exact Outcome.ended_finished written
  · rw [ran]
    exact congrArg (fun text => Report.mk .finished text []) String.empty_append
  · rw [ran]
    rfl

/-- A value that is shown as a numeral is printed as that. -/
theorem print_numeral {σ : Type} {state : State σ} {value : Value} {n : Int}
    (holds : state.accumulator = value) (plain : state.captures = [])
    (number : (∃ m, value = .int m) ∨ ∃ m, value = .uint m)
    (shown : value.display = toString n) :
    printAccumulator state = { state with output := state.output ++ toString n } := by
  have written : printAccumulator state = state.write (Text.Html.escape value.display) := by
    unfold printAccumulator
    rw [holds]
    obtain ⟨m, rfl⟩ | ⟨m, rfl⟩ := number <;> rfl
  rw [written, shown, escape_toString, State.write, plain]

open Template (tagged literal)

section

variable {negative : Bool} {numeral : Numeral}

/-- A number is scanned to one token in a tag. -/
theorem scan_number (negative : Bool) (numeral : Numeral) :
    ∃ opening token closing ending,
      Token.scan .standard (tagged [.number negative numeral]) =
        opening :: ([token] ++ [closing, ending]) ∧
      Template.Alone [.number negative numeral] opening [token] closing ending ∧
      token.kind = .number ∧
      token.value = .ofList (Token.dash negative ++ numeral.written) := by
  have following : Token.Following (some .tagStart) [.number negative numeral] := by
    refine ⟨?_, trivial⟩
    cases negative with
    | true => rfl
    | false => exact fun dotted => nomatch dotted
  obtain ⟨opening, inner, closing, ending, scanned, alone⟩ := Template.scan_tagged following
  obtain ⟨token, rest, rfl, here, none⟩ := List.map_eq_cons_iff.mp alone.same
  obtain rfl := List.map_eq_nil_iff.mp none
  exact ⟨opening, token, closing, ending, scanned, alone, congrArg Prod.fst here,
    congrArg Prod.snd here⟩

/-- A number that denotes a literal is printed as its numeral. -/
theorem prints_number {n : Int} {value : Literal} {node : Place → Node}
    (denoted : ∀ place, literal place (.ofList (Token.dash negative ++ numeral.written)) =
      .ok (node place))
    (unassigned : ∀ place place' name slot operand, node place ≠ .assign place' name slot operand)
    (generated : ∀ place, Generate.expression (node place) = .ok [.literal value])
    (number : (∃ m, value = .int m) ∨ ∃ m, value = .uint m)
    (shown : (ofLiteral value).display = toString n) :
    Prints (tagged [.number negative numeral]) (toString n) := by
  intro σ optimize now name environment store
  obtain ⟨opening, token, closing, ending, scanned, alone, kind, text⟩ :=
    scan_number negative numeral
  have read : literal token.place token.value = .ok (node token.place) := by
    rw [text]
    exact denoted token.place
  obtain ⟨place, parsed⟩ := alone.parse_eq ⟨_, [], rfl, rfl⟩ scanned alone.closes
    (fun allowance enough => Template.takes_number kind alone.closes read enough)
    (unassigned token.place)
  have straight : Straight [.literal value] := straight_single rfl rfl
  refine ⟨_, compile_page (generated token.place) straight parsed optimize now, ?_⟩
  refine ends_literal environment name now store fun state holds plain => ?_
  refine print_numeral holds plain ?_ shown
  obtain ⟨m, rfl⟩ | ⟨m, rfl⟩ := number
  · exact .inl ⟨m, rfl⟩
  · exact .inr ⟨m, rfl⟩

theorem ungrammatical_number {problem : Template.GrammarFault}
    (wrong : ∀ place, literal place (.ofList (Token.dash negative ++ numeral.written)) =
      .error problem)
    (real : problem ≠ .tooDeep) : Ungrammatical (tagged [.number negative numeral]) := by
  intro optimize now name
  obtain ⟨opening, token, closing, ending, scanned, alone, kind, text⟩ :=
    scan_number negative numeral
  have read : literal token.place token.value = .error problem := by
    rw [text]
    exact wrong token.place
  have faults : Template.Faults
      (Template.parse .standard name (tagged [.number negative numeral])) := by
    refine alone.faults_parse ⟨_, [], rfl, rfl⟩ scanned fun allowance enough => ?_
    obtain ⟨fewer, rfl⟩ : ∃ fewer, allowance = fewer + 10 :=
      ⟨allowance - 10, by unfold Template.enoughFor at enough; omega⟩
    exact Template.refuses_number kind read real fewer
  obtain ⟨found, -, failed⟩ := faults
  refine ⟨found, ?_⟩
  simp only [compileSource, failed]
  rfl

end

/-! ## Ranges -/

theorem display_ofInt {n : Int} (least : -0x8000000000000000 ≤ n)
    (greatest : n < 0x8000000000000000) :
    (Value.int (Int64.ofInt n)).display = toString n := by
  rw [Value.display, Int64.toInt_ofInt_of_le least greatest]

theorem literal_decimal (place : Place) (negative : Bool) (digits : Digits) :
    literal place (.ofList (Token.dash negative ++ (Numeral.decimal digits none none).written)) =
      let n := Decimal.signed negative digits.value
      if -0x8000000000000000 ≤ n ∧ n < 0x8000000000000000 then .ok (.int place (Int64.ofInt n))
      else if negative = false ∧ digits.value < 0x10000000000000000 then
        .ok (.uint place (UInt64.ofNat digits.value))
      else .error (.integerOutOfRange (.ofList (Token.dash negative ++ digits.chars))) := by
  have written : (Numeral.decimal digits none none).written = digits.chars := List.append_nil _
  rw [written]
  exact Template.literal_digits place negative digits

/-- A decimal integer is printed if it is signed, or unsigned and not negative. -/
theorem prints_decimal {negative : Bool} {digits : Digits}
    (fits : if negative then digits.value ≤ 0x8000000000000000
      else digits.value < 0x10000000000000000) :
    Prints (tagged [.number negative (.decimal digits none none)])
      (toString (Decimal.signed negative digits.value)) := by
  have read := fun place => literal_decimal place negative digits
  dsimp only at read
  by_cases within : -0x8000000000000000 ≤ Decimal.signed negative digits.value ∧
      Decimal.signed negative digits.value < 0x8000000000000000
  · simp only [if_pos within] at read
    exact prints_number read nofun (fun _ => rfl) (.inl ⟨_, rfl⟩)
      (display_ofInt within.1 within.2)
  · simp only [if_neg within] at read
    cases negative with
    | true =>
        have fits : digits.value ≤ 0x8000000000000000 := fits
        refine absurd ?_ within
        simp only [Decimal.signed, if_true]
        omega
    | false =>
        have fits : digits.value < 0x10000000000000000 := fits
        simp only [true_and, if_pos fits] at read
        have shown : (Value.uint (UInt64.ofNat digits.value)).display =
            toString (digits.value : Int) := by
          rw [Value.display, UInt64.toNat_ofNat_of_lt' fits]
          rfl
        exact prints_number read nofun (fun _ => rfl) (.inr ⟨_, rfl⟩) shown

theorem ungrammatical_decimal {negative : Bool} {digits : Digits}
    (large : ¬ if negative then digits.value ≤ 0x8000000000000000
      else digits.value < 0x10000000000000000) :
    Ungrammatical (tagged [.number negative (.decimal digits none none)]) := by
  have read := fun place => literal_decimal place negative digits
  dsimp only at read
  have outside : ¬(-0x8000000000000000 ≤ Decimal.signed negative digits.value ∧
      Decimal.signed negative digits.value < 0x8000000000000000) := by
    cases negative with
    | true =>
        simp only [if_true] at large
        simp only [Decimal.signed, if_true]
        omega
    | false =>
        simp only [Bool.false_eq_true, if_false] at large
        simp only [Decimal.signed, Bool.false_eq_true, if_false]
        omega
  have signed : ¬(negative = false ∧ digits.value < 0x10000000000000000) := by
    rintro ⟨rfl, below⟩
    exact large below
  simp only [if_neg outside, if_neg signed] at read
  exact ungrammatical_number read nofun

/-- A hexadecimal integer is printed if it is signed. -/
theorem prints_hex {negative : Bool} {digits : HexDigits}
    (fits : digits.value < 0x8000000000000000) :
    Prints (tagged [.number negative
        (.hex 'x' (.inl rfl) digits.chars digits.nonempty digits.digits)])
      (toString (Decimal.signed negative digits.value)) := by
  have read := fun place => Template.literal_hex place negative digits
  simp only [if_pos fits] at read
  refine prints_number read nofun (fun _ => rfl) (.inl ⟨_, rfl⟩) (display_ofInt ?_ ?_)
  · unfold Decimal.signed
    split <;> omega
  · unfold Decimal.signed
    split <;> omega

theorem ungrammatical_hex {negative : Bool} {digits : HexDigits}
    (large : ¬digits.value < 0x8000000000000000) :
    Ungrammatical (tagged [.number negative
      (.hex 'x' (.inl rfl) digits.chars digits.nonempty digits.digits)]) := by
  have read := fun place => Template.literal_hex place negative digits
  simp only [if_neg large] at read
  exact ungrammatical_number read nofun

/-! ## Texts -/

theorem tagged_number (negative : Bool) (numeral : Numeral) :
    tagged [.number negative numeral] =
      "[% " ++ .ofList (Token.dash negative ++ numeral.written) ++ " %]" := by
  have inside : Token.writtenTokens [(Lexeme.number negative numeral, Template.Expression.space)] =
      Token.dash negative ++ numeral.written ++ [' '] := List.append_nil _
  have blank : Template.Expression.space.written = [' '] := rfl
  rw [← String.toList_inj]
  simp only [tagged, Token.writtenTag, List.map_cons, List.map_nil, inside, blank,
    Token.opening_standard, Token.closing_standard, String.toList_append, String.toList_ofList]
  simp

/-- The texts of the four ways in which an integer is written. -/
theorem tagged_decimal (negative : Bool) (digits : Digits) :
    tagged [.number negative (.decimal digits none none)] =
      (if negative then "[% -" else "[% ") ++ .ofList digits.chars ++ " %]" := by
  rw [tagged_number, ← String.toList_inj]
  cases negative <;>
    simp [Numeral.written, Numeral.fractionText, Numeral.exponentText, Token.dash]

theorem tagged_hex (negative : Bool) (digits : HexDigits) :
    tagged [.number negative (.hex 'x' (.inl rfl) digits.chars digits.nonempty digits.digits)] =
      (if negative then "[% -0x" else "[% 0x") ++ .ofList digits.chars ++ " %]" := by
  rw [tagged_number, ← String.toList_inj]
  cases negative <;> simp [Numeral.written, Token.dash]

/-- An integer in a tag of its own is printed as the numeral of its value, whatever its digits are,
if the value is in the range of how it is written, and is otherwise refused: without a sign up to
the largest unsigned word, with a dash down to the least signed one, and up to the largest signed
one in hexadecimal digits with a dash or without. -/
theorem integers_as_written :
    (∀ digits : Digits,
      (if digits.value ≤ 2 ^ 64 - 1 then
          Prints ("[% " ++ .ofList digits.chars ++ " %]") (toString digits.value)
        else Ungrammatical ("[% " ++ .ofList digits.chars ++ " %]")) ∧
      if digits.value ≤ 2 ^ 63 then
        Prints ("[% -" ++ .ofList digits.chars ++ " %]") (toString (-(digits.value : Int)))
      else Ungrammatical ("[% -" ++ .ofList digits.chars ++ " %]")) ∧
    ∀ digits : HexDigits,
      (if digits.value ≤ 2 ^ 63 - 1 then
          Prints ("[% 0x" ++ .ofList digits.chars ++ " %]") (toString digits.value)
        else Ungrammatical ("[% 0x" ++ .ofList digits.chars ++ " %]")) ∧
      if digits.value ≤ 2 ^ 63 - 1 then
        Prints ("[% -0x" ++ .ofList digits.chars ++ " %]") (toString (-(digits.value : Int)))
      else Ungrammatical ("[% -0x" ++ .ofList digits.chars ++ " %]") := by
  refine ⟨fun digits => ⟨?_, ?_⟩, fun digits => ⟨?_, ?_⟩⟩
  · rw [show "[% " ++ .ofList digits.chars ++ " %]" = _ from (tagged_decimal false digits).symm]
    split
    · next fits => exact prints_decimal (Nat.lt_succ_of_le fits)
    · next large => exact ungrammatical_decimal fun fits => large (Nat.le_of_lt_succ fits)
  · rw [show "[% -" ++ .ofList digits.chars ++ " %]" = _ from (tagged_decimal true digits).symm]
    split
    · next fits => exact prints_decimal fits
    · next large => exact ungrammatical_decimal large
  · rw [show "[% 0x" ++ .ofList digits.chars ++ " %]" = _ from (tagged_hex false digits).symm]
    split
    · next fits => exact prints_hex (Nat.lt_succ_of_le fits)
    · next large => exact ungrammatical_hex fun fits => large (Nat.le_of_lt_succ fits)
  · rw [show "[% -0x" ++ .ofList digits.chars ++ " %]" = _ from (tagged_hex true digits).symm]
    split
    · next fits => exact prints_hex (Nat.lt_succ_of_le fits)
    · next large => exact ungrammatical_hex fun fits => large (Nat.le_of_lt_succ fits)

end Machine

end Stencil

import Stencil.Proofs.Results
import Stencil.Proofs.Token.Lexemes
import Stencil.Proofs.Token.Segments

/-!
# The end of the stream

Whatever the source, the stream of tokens comes to an end: every token takes some characters, or
opens a tag and is followed by one that does. The loops that pass over comments and blanks on the
way to a token end too, since each round of them takes some characters. An empty closing, or one
that begins like a comment, would not let them.
-/

namespace Stencil

/-! ## Loops -/

section

variable {σ ρ : Type}

/-- A loop that may go round so many times. Each round goes on from another state, or leaves the
loop with a result. -/
def runLoop (round : σ → σ ⊕ ρ) : Nat → σ → Option ρ
  | 0, _ => none
  | allowed + 1, state =>
      match round state with
      | .inl next => runLoop round allowed next
      | .inr result => some result

/-- A loop ends if its rounds get somewhere, with what none of the rounds changes. -/
theorem runLoop_eq_some {round : σ → σ ⊕ ρ} (size : σ → Nat) (result : σ → ρ)
    (goes : ∀ state next, round state = .inl next →
      size next < size state ∧ result next = result state)
    (leaves : ∀ state outcome, round state = .inr outcome → result state = outcome)
    {allowed : Nat} {state : σ} (enough : size state < allowed) :
    runLoop round allowed state = some (result state) := by
  induction allowed generalizing state with
  | zero => exact absurd enough (Nat.not_lt_zero _)
  | succ allowed ih =>
      unfold runLoop
      split
      · next next went =>
          obtain ⟨smaller, same⟩ := goes state next went
          rw [ih (by omega), same]
      · next outcome left => rw [leaves state outcome left]

end

namespace Token

open Scanner (lineBlankSize)
open Text (cut?)
open Unicode (isBlank isWordChar)

/-! ## Blanks and comments -/

/-- How many characters of a comment come before its end, which is the end of the line or the
closing, with a dash or without. -/
def commentSize (closing : List Char) : List Char → Nat
  | [] => 0
  | c :: rest =>
      if c = '\n' ∨ closing.isPrefixOf (c :: rest) ∨ c = '-' ∧ closing.isPrefixOf rest then 0
      else commentSize closing rest + 1

/-- One round of passing over blanks: a run of them, or a comment up to its end. -/
def blankRound (closing text : List Char) : List Char ⊕ List Char :=
  if text.takeWhile isBlank ≠ [] then .inl (text.dropWhile isBlank)
  else if text.head? = some '#' then .inl (text.drop (commentSize closing text))
  else .inr text

section

variable {closing : List Char}

/-- What is left of a text behind its blanks and comments. -/
def behindBlanks (closing text : List Char) : List Char :=
  text.drop (blankSize closing false text)

theorem behindBlanks_blank {c : Char} (blank : isBlank c = true) (rest : List Char) :
    behindBlanks closing (c :: rest) = behindBlanks closing rest := by
  rw [behindBlanks, blankSize, if_neg nofun, if_pos blank]
  rfl

theorem behindBlanks_dropWhile (text : List Char) :
    behindBlanks closing (text.dropWhile isBlank) = behindBlanks closing text := by
  induction text with
  | nil => rfl
  | cons c rest ih =>
      rw [List.dropWhile_cons]
      split
      · next blank => rw [ih, behindBlanks_blank blank]
      · rfl

theorem behindBlanks_other {c : Char} (dark : isBlank c = false) (unmarked : c ≠ '#')
    (rest : List Char) : behindBlanks closing (c :: rest) = c :: rest := by
  rw [behindBlanks, blankSize, if_neg nofun, if_neg (Bool.eq_false_iff.mp dark), if_neg unmarked]
  rfl

variable (nonempty : closing ≠ []) (unmarked : closing.head? ≠ some '#')

include nonempty unmarked

/-- No closing stands at a number sign. -/
theorem not_isPrefixOf_mark (rest : List Char) : closing.isPrefixOf ('#' :: rest) = false := by
  refine Bool.eq_false_iff.mpr fun starts => ?_
  obtain ⟨behind, same⟩ := List.isPrefixOf_iff_prefix.mp starts
  cases closing with
  | nil => exact nonempty rfl
  | cons first others =>
      cases same
      exact unmarked rfl

/-- The end of a comment is followed by what may follow blanks. -/
theorem drop_blankSize_comment (text : List Char) :
    text.drop (blankSize closing true text) =
      behindBlanks closing (text.drop (commentSize closing text)) := by
  induction text with
  | nil => rfl
  | cons c rest ih =>
      rw [blankSize, if_pos rfl]
      by_cases newline : c = '\n'
      · rw [if_pos newline, commentSize, if_pos (.inl newline), newline]
        exact (behindBlanks_blank Unicode.isBlank_newline rest).symm
      · rw [if_neg newline]
        by_cases closes : closing.isPrefixOf (c :: rest) = true
        · have ended : commentSize closing (c :: rest) = 0 := if_pos (.inr (.inl closes))
          rw [if_pos closes, ended]
          cases blank : isBlank c with
          | true => exact (behindBlanks_blank blank rest).symm
          | false =>
              have other : c ≠ '#' := by
                rintro rfl
                rw [not_isPrefixOf_mark nonempty unmarked] at closes
                cases closes
              exact (behindBlanks_other blank other rest).symm
        · rw [if_neg closes]
          by_cases dashed : c = '-' ∧ closing.isPrefixOf rest = true
          · rw [if_pos dashed, commentSize, if_pos (.inr (.inr dashed)), dashed.1]
            exact (behindBlanks_other (by decide) (by decide) rest).symm
          · rw [if_neg dashed, commentSize,
              if_neg (not_or.mpr ⟨newline, not_or.mpr ⟨closes, dashed⟩⟩)]
            exact ih

/-- A comment is its number sign at least. -/
theorem commentSize_mark (rest : List Char) :
    commentSize closing ('#' :: rest) = commentSize closing rest + 1 := by
  rw [commentSize, if_neg]
  rintro (newline | closes | dashed)
  · cases newline
  · rw [not_isPrefixOf_mark nonempty unmarked] at closes
    cases closes
  · cases dashed.1

theorem behindBlanks_comment (rest : List Char) :
    behindBlanks closing (('#' :: rest).drop (commentSize closing ('#' :: rest))) =
      behindBlanks closing ('#' :: rest) := by
  rw [commentSize_mark nonempty unmarked, List.drop_succ_cons,
    ← drop_blankSize_comment nonempty unmarked]
  rw [behindBlanks, blankSize, if_neg nofun, if_neg (by decide), if_pos rfl]
  rfl

/-- Passing over blanks and comments ends before every character had a round of its own. -/
theorem runLoop_blankRound {allowed : Nat} {text : List Char} (enough : text.length < allowed) :
    runLoop (blankRound closing) allowed text = some (behindBlanks closing text) := by
  refine runLoop_eq_some List.length (behindBlanks closing) ?_ ?_ enough
  · intro text next went
    unfold blankRound at went
    split at went
    · next blanks =>
        cases went
        have split : (text.takeWhile isBlank ++ text.dropWhile isBlank).length = text.length :=
          congrArg List.length List.takeWhile_append_dropWhile
        have := List.length_pos_iff.mpr blanks
        rw [List.length_append] at split
        exact ⟨by omega, behindBlanks_dropWhile text⟩
    · split at went
      · next marked =>
          cases went
          obtain ⟨rest, rfl⟩ := List.head?_eq_some_iff.mp marked
          refine ⟨?_, behindBlanks_comment nonempty unmarked rest⟩
          rw [commentSize_mark nonempty unmarked, List.length_drop, List.length_cons]
          omega
      · cases went
  · intro text outcome left
    unfold blankRound at left
    split at left
    · cases left
    · next blankless =>
        split at left
        · cases left
        · next markless =>
            cases left
            cases text with
            | nil => rfl
            | cons c rest =>
                refine behindBlanks_other ?_ (fun same => markless (congrArg some same)) rest
                refine Bool.eq_false_iff.mpr fun blank => blankless ?_
                rw [List.takeWhile_cons_of_pos blank]
                exact List.cons_ne_nil _ _

end

/-! ## The end of a line -/

/-- One round of dropping the blanks of a line, with its end. -/
def lineRound : List Char → List Char ⊕ List Char
  | [] => .inr []
  | c :: rest =>
      if c = '\n' then .inr rest
      else if isBlank c then .inl rest
      else .inr (c :: rest)

theorem runLoop_lineRound {allowed : Nat} {text : List Char} (enough : text.length < allowed) :
    runLoop lineRound allowed text = some (text.drop (lineBlankSize text)) := by
  refine runLoop_eq_some List.length (fun text => text.drop (lineBlankSize text)) ?_ ?_ enough
  · intro text next went
    unfold lineRound at went
    split at went
    · cases went
    · next c rest =>
      split at went
      · cases went
      · next newline =>
        split at went
        · next blank =>
          cases went
          refine ⟨Nat.lt_succ_self _, ?_⟩
          rw [lineBlankSize, if_neg newline, if_pos blank]
          rfl
        · cases went
  · intro text outcome left
    unfold lineRound at left
    split at left
    · cases left
      rfl
    · next c rest =>
      split at left
      · next newline =>
        cases left
        rw [lineBlankSize, if_pos newline]
        rfl
      · next newline =>
        split at left
        · cases left
        · next dark =>
          cases left
          rw [lineBlankSize, if_neg newline, if_neg dark]
          rfl

/-! ## Pieces of a tag -/

section

variable {text : List Char} {size : Nat}

theorem runSize_pos {isMember : Char → Bool} (member : text.head?.any isMember = true) :
    0 < runSize isMember text := by
  cases text with
  | nil => cases member
  | cons first rest =>
      rw [runSize, List.takeWhile_cons_of_pos (Option.any_some.symm.trans member)]
      exact Nat.succ_pos _

theorem decimalSize_pos (starts : text.head?.any Char.isDigit = true)
    (found : decimalSize text = .ok size) : 0 < size := by
  obtain ⟨exponent, -, whole⟩ := bind_eq_ok.mp found
  cases whole
  have := runSize_pos starts
  omega

theorem numberSize_pos (starts : (text.drop (signSize text)).head?.any Char.isDigit = true)
    (found : numberSize text = .ok size) : 0 < size := by
  unfold numberSize at found
  dsimp only at found
  split at found
  · obtain ⟨digits, -, whole⟩ := bind_eq_ok.mp found
    cases whole
    omega
  · obtain ⟨digits, -, whole⟩ := bind_eq_ok.mp found
    cases whole
    omega
  · obtain ⟨digits, decimal, whole⟩ := bind_eq_ok.mp found
    cases whole
    have := decimalSize_pos starts decimal
    omega

theorem loneNumberSize_pos (starts : (text.drop (signSize text)).head?.any Char.isDigit = true)
    (found : loneNumberSize text = .ok size) : 0 < size := by
  obtain ⟨size', number, whole⟩ := bind_eq_ok.mp found
  split at whole
  · cases whole
  · cases whole
    exact numberSize_pos starts number

theorem signSize_digit {first : Char} (digit : first.isDigit = true) (rest : List Char) :
    signSize (first :: rest) = 0 := by
  unfold signSize
  split
  · next same =>
      cases same
      cases digit
  · next same =>
      cases same
      cases digit
  · rfl

theorem signSize_sign {first : Char} (sign : first = '-' ∨ first = '+') (rest : List Char) :
    signSize (first :: rest) = 1 := by
  rcases sign with rfl | rfl <;> rfl

theorem size_number?_pos {last : Option Kind} {piece : Piece}
    (found : number? last text = some (.ok piece)) : 0 < piece.size := by
  unfold number? at found
  dsimp only at found
  split at found
  · cases found
  · next first rest =>
    split at found
    · next digit =>
      split at found
      · cases found
        exact runSize_pos digit
      · obtain ⟨size, lone, rfl⟩ := map_eq_ok.mp (Option.some.inj found)
        refine loneNumberSize_pos ?_ lone
        rwa [signSize_digit digit]
    · split at found
      · next signed =>
        simp only [Bool.and_eq_true, Bool.or_eq_true, beq_iff_eq] at signed
        obtain ⟨size, lone, rfl⟩ := map_eq_ok.mp (Option.some.inj found)
        refine loneNumberSize_pos ?_ lone
        rw [signSize_sign signed.1.1]
        exact signed.1.2
      · cases found

theorem size_string?_pos {piece : Piece} (found : string? text = some (.ok piece)) :
    0 < piece.size := by
  unfold string? at found
  split at found
  · cases found
  · split at found
    · split at found
      · cases found
        exact Nat.succ_pos _
      · cases found
    · cases found

theorem size_nameOrError_pos {closing : List Char} {piece : Piece}
    (found : nameOrError closing text = .ok piece) : 0 < piece.size := by
  unfold nameOrError at found
  split at found
  · cases found
  · next first rest =>
    split at found
    · next starts =>
      simp only [Bool.or_eq_true, beq_iff_eq] at starts
      dsimp only at found
      split at found
      · cases found
        have member : (first :: rest).head?.any isWordChar = true := isWordChar_of_starts starts
        exact runSize_pos member
      · cases found
    · cases found

theorem name_nonempty_of_standard :
    ∀ symbol ∈ SymbolTable.standard.symbols, 0 < symbol.name.toList.length := by
  decide

/-- Every piece takes some characters. -/
theorem size_pieceAt_pos {dialect : Dialect} {last : Option Kind} {piece : Piece}
    (usual : dialect.symbols = .standard) (found : pieceAt dialect last text = .ok piece) :
    0 < piece.size := by
  unfold pieceAt at found
  split at found
  · next result number => exact size_number?_pos (number.trans (congrArg some found))
  · split at found
    · next result string => exact size_string?_pos (string.trans (congrArg some found))
    · split at found
      · next piece symbol =>
        cases found
        obtain ⟨entry, matched, rfl⟩ := Option.map_eq_some_iff.mp symbol
        rw [usual] at matched
        exact name_nonempty_of_standard entry (SymbolTable.mem_of_matchAt matched)
      · exact size_nameOrError_pos found

end

namespace Scanner

variable {dialect : Dialect}

/-! ## Texts and comment tags -/

/-- One round of looking for the next token outside tags: a comment tag or a run of dropped blanks
is passed over, anything else is the token. -/
def textRound (dialect : Dialect) (scanner : Scanner) : Scanner ⊕ (Token × Scanner) :=
  let scanner := scanner.trimLine
  if scanner.rest = [] then .inr (scanner.emit .eof [] 0)
  else
    match cut? dialect.opening.toList scanner.rest with
    | none => .inr (scanner.emit .rawText scanner.rest scanner.rest.length)
    | some ([], after) =>
        if after.head? = some '#' then
          match cut? dialect.closing.toList after with
          | none =>
              let ended := scanner.moveBy scanner.rest.length
              .inr (ended.failAt ended.place (.unclosedComment dialect.closing))
          | some (inside, _) =>
              .inl (scanner.moveBy (dialect.opening.toList.length + inside.length +
                dialect.closing.toList.length))
        else .inr (scanner.openTag dialect (after.head? = some '-'))
    | some (first :: before, after) =>
        if keptText (first :: before) after = [] then .inl (scanner.moveBy (before.length + 1))
        else .inr (scanner.emit .rawText (keptText (first :: before) after) (before.length + 1))

/-- The blanks of a line are dropped once, wherever the scanner goes then. -/
theorem trimLine_moveBy (scanner : Scanner) (size : Nat) :
    (scanner.trimLine.moveBy size).trimLine = scanner.trimLine.moveBy size := by
  refine if_neg ?_
  show ¬scanner.trimLine.trims = true
  unfold trimLine
  split
  · nofun
  · assumption

theorem inTag_trimLine (scanner : Scanner) : scanner.trimLine.inTag = scanner.inTag := by
  unfold trimLine
  split <;> rfl

theorem length_moveBy_le (scanner : Scanner) (size : Nat) :
    (scanner.moveBy size).rest.length ≤ scanner.rest.length := by
  rw [moveBy, List.length_drop]
  exact Nat.sub_le _ _

theorem length_trimLine_le (scanner : Scanner) :
    scanner.trimLine.rest.length ≤ scanner.rest.length := by
  unfold trimLine
  split
  · exact length_moveBy_le scanner _
  · exact Nat.le_refl _

/-- A round that goes on has taken some characters, and the token to come is still the same. -/
theorem textRound_goes (nonempty : dialect.closing.toList ≠ []) {scanner next : Scanner}
    (went : textRound dialect scanner = .inl next) :
    next.rest.length < scanner.rest.length ∧
      next.trimLine.textToken dialect = scanner.trimLine.textToken dialect := by
  have shorter := length_trimLine_le scanner
  unfold textRound at went
  dsimp only at went
  split at went
  · cases went
  · next unfinished =>
    split at went
    · cases went
    · next after found =>
      split at went
      · next marked =>
        split at went
        · cases went
        · next inside behind closed =>
          have positive : 0 < dialect.opening.toList.length + inside.length +
              dialect.closing.toList.length := by
            have := List.length_pos_iff.mpr nonempty
            omega
          cases went
          rw [trimLine_moveBy, textToken_comment unfinished found marked closed positive]
          exact ⟨Nat.lt_of_lt_of_le (length_moveBy_lt unfinished positive) shorter, rfl⟩
      · cases went
    · next first before after found =>
      split at went
      · next dropped =>
        cases went
        rw [trimLine_moveBy, textToken_dropped unfinished found dropped]
        exact ⟨Nat.lt_of_lt_of_le (length_moveBy_lt unfinished (Nat.succ_pos _)) shorter, rfl⟩
      · cases went

theorem textRound_leaves {scanner : Scanner} {outcome : Token × Scanner}
    (left : textRound dialect scanner = .inr outcome) :
    scanner.trimLine.textToken dialect = outcome := by
  unfold textRound at left
  dsimp only at left
  split at left
  · next finished =>
    cases left
    exact textToken_finished finished
  · next unfinished =>
    split at left
    · next missed =>
      cases left
      exact textToken_plain unfinished missed
    · next after found =>
      split at left
      · next marked =>
        split at left
        · next missed =>
          cases left
          exact textToken_unclosed unfinished found marked missed
        · cases left
      · next unmarked =>
        cases left
        exact textToken_opening unfinished found unmarked
    · next first before after found =>
      split at left
      · cases left
      · next kept =>
        cases left
        exact textToken_text unfinished found kept

/-- Looking for the next token outside tags ends before every character had a round of its own. -/
theorem runLoop_textRound (nonempty : dialect.closing.toList ≠ []) {allowed : Nat}
    {scanner : Scanner} (enough : scanner.rest.length < allowed) :
    runLoop (textRound dialect) allowed scanner = some (scanner.trimLine.textToken dialect) :=
  runLoop_eq_some (fun scanner : Scanner => scanner.rest.length)
    (fun scanner : Scanner => scanner.trimLine.textToken dialect)
    (fun _ _ => textRound_goes nonempty) (fun _ _ => textRound_leaves) enough

/-! ## Progress -/

/-- How many tokens may still come before the last one: at most two for each character, and one
that opens a tag without taking any. -/
def potential (scanner : Scanner) : Nat :=
  2 * scanner.rest.length + (!scanner.inTag).toNat

theorem potential_start (source : String) :
    (start source).potential = 2 * source.toList.length + 1 :=
  rfl

section

variable {scanner : Scanner}

theorem potential_moveBy_le (scanner : Scanner) (size : Nat) :
    (scanner.moveBy size).potential ≤ scanner.potential :=
  Nat.add_le_add_right (Nat.mul_le_mul_left 2 (length_moveBy_le scanner size)) _

theorem potential_trimLine_le (scanner : Scanner) :
    scanner.trimLine.potential ≤ scanner.potential := by
  rw [potential, inTag_trimLine]
  exact Nat.add_le_add_right (Nat.mul_le_mul_left 2 (length_trimLine_le scanner)) _

theorem potential_emit_lt (unfinished : scanner.rest ≠ []) {size : Nat} (positive : 0 < size)
    (kind : Kind) (value : List Char) :
    (scanner.emit kind value size).2.potential < scanner.potential :=
  Nat.add_lt_add_right
    (Nat.mul_lt_mul_of_pos_left (length_moveBy_lt unfinished positive) Nat.two_pos) _

theorem potential_textToken_lt (outside : scanner.inTag = false)
    (further : (scanner.textToken dialect).1.kind.endsStream = false) :
    (scanner.textToken dialect).2.potential < scanner.potential := by
  induction scanner using textToken.induct dialect with
  | case1 scanner finished =>
      rw [textToken_finished finished] at further
      cases further
  | case2 scanner unfinished missed =>
      rw [textToken_plain unfinished missed]
      exact potential_emit_lt unfinished (List.length_pos_iff.mpr unfinished) _ _
  | case3 scanner unfinished after found marked missed =>
      rw [textToken_unclosed unfinished found marked missed] at further
      cases further
  | case4 scanner unfinished after found marked inside behind closed size positive _ ih =>
      rw [textToken_comment unfinished found marked closed positive] at further ⊢
      exact Nat.lt_of_lt_of_le (ih outside further) (potential_moveBy_le scanner _)
  | case5 scanner unfinished after found marked inside behind closed size empty =>
      rw [textToken_stuck unfinished found marked closed empty] at further
      cases further
  | case6 scanner unfinished after found unmarked =>
      rw [textToken_opening unfinished found unmarked, potential, potential, outside]
      -- An empty opening takes nothing, but the scanner is in a tag then.
      exact Nat.lt_succ_of_le (Nat.mul_le_mul_left 2 (length_moveBy_le scanner _))
  | case7 scanner unfinished first before after found text dropped _ ih =>
      rw [textToken_dropped unfinished found dropped] at further ⊢
      exact Nat.lt_of_lt_of_le (ih outside further) (potential_moveBy_le scanner _)
  | case8 scanner unfinished first before after found text kept =>
      rw [textToken_text unfinished found kept]
      exact potential_emit_lt unfinished (Nat.succ_pos _) _ _

variable (usual : dialect.symbols = .standard) (nonempty : dialect.closing.toList ≠ [])

include usual nonempty

theorem potential_tagToken_lt (inside : scanner.inTag = true)
    (further : (scanner.tagToken dialect).1.kind.endsStream = false) :
    (scanner.tagToken dialect).2.potential < scanner.potential := by
  have skipped : (scanner.skipBlanks dialect).potential ≤ scanner.potential :=
    potential_moveBy_le scanner _
  refine Nat.lt_of_lt_of_le ?_ skipped
  by_cases finished : (scanner.skipBlanks dialect).rest = []
  · rw [tagToken_unclosed finished] at further
    cases further
  · cases closes : closing? dialect.closing.toList (scanner.skipBlanks dialect).rest with
    | some found =>
        obtain ⟨trims, size⟩ := found
        obtain ⟨rest, -, rfl⟩ := closing?_eq_some closes
        rw [tagToken_closing finished closes]
        have positive : 0 < (dash trims ++ dialect.closing.toList).length := by
          rw [List.length_append]
          exact Nat.add_pos_right _ (List.length_pos_iff.mpr nonempty)
        have shorter := length_moveBy_lt finished positive
        have within : (scanner.skipBlanks dialect).inTag = true := inside
        rw [potential, potential, within]
        show 2 * ((scanner.skipBlanks dialect).moveBy _).rest.length + 1 < _ + 0
        omega
    | none =>
        rw [tagToken_eq finished closes] at further ⊢
        cases found : pieceAt dialect scanner.last (scanner.skipBlanks dialect).rest with
        | error fault =>
            rw [found] at further
            cases further
        | ok piece => exact potential_emit_lt finished (size_pieceAt_pos usual found) _ _

/-- With every token but the last, fewer are left to come. -/
theorem potential_next_lt (further : (scanner.next dialect).1.kind.endsStream = false) :
    (scanner.next dialect).2.potential < scanner.potential := by
  unfold next at further ⊢
  cases inside : scanner.inTag with
  | true =>
      rw [inside, if_pos rfl] at further
      rw [if_pos rfl]
      exact potential_tagToken_lt usual nonempty inside further
  | false =>
      rw [inside, if_neg nofun] at further
      rw [if_neg nofun]
      exact Nat.lt_of_lt_of_le
        (potential_textToken_lt ((inTag_trimLine scanner).trans inside) further)
        (potential_trimLine_le scanner)

end

end Scanner

/-! ## The stream as it is drawn from -/

/-- A scanner that gives its tokens one at a time, and nothing more after the one that ends the
stream. -/
structure Feed where
  scanner : Scanner
  done : Bool

namespace Feed

def start (source : String) : Feed :=
  ⟨.start source, false⟩

/-- What is given next, and what is left to give. -/
def next? (dialect : Dialect) (feed : Feed) : Option Token × Feed :=
  if feed.done then (none, feed)
  else
    let (token, scanner) := feed.scanner.next dialect
    (some token, ⟨scanner, token.kind.endsStream⟩)

/-- What is given after so many draws. -/
def drawn (dialect : Dialect) (feed : Feed) : Nat → Option Token
  | 0 => (feed.next? dialect).1
  | earlier + 1 => (feed.next? dialect).2.drawn dialect earlier

variable {dialect : Dialect}

theorem drawn_succ (scanner : Scanner) (count : Nat) :
    drawn dialect ⟨scanner, false⟩ (count + 1) = drawn dialect ⟨(scanner.next dialect).2,
      (scanner.next dialect).1.kind.endsStream⟩ count :=
  rfl

theorem drawn_done (scanner : Scanner) (count : Nat) :
    drawn dialect ⟨scanner, true⟩ count = none := by
  induction count with
  | zero => rfl
  | succ count ih => exact ih

end Feed

/-- Tokens of which the last one, and no other, ends the stream. -/
def Ended (tokens : List Token) : Prop :=
  ∃ earlier last, tokens = earlier ++ [last] ∧ last.kind.endsStream = true ∧
    ∀ token ∈ earlier, token.kind.endsStream = false

section

variable {dialect : Dialect} {allowed : Nat} {scanner : Scanner}

theorem length_collect_le (dialect : Dialect) (allowed : Nat) (scanner : Scanner) :
    (Scanner.collect dialect allowed scanner).length ≤ allowed := by
  induction allowed generalizing scanner with
  | zero => exact Nat.le_refl _
  | succ allowed ih =>
      rw [collect_succ, resume]
      split
      · exact Nat.succ_le_succ (Nat.zero_le _)
      · exact Nat.succ_le_succ (ih _)

variable (usual : dialect.symbols = .standard) (nonempty : dialect.closing.toList ≠ [])
  (enough : scanner.potential < allowed)

include usual nonempty enough

theorem ended_collect : Ended (Scanner.collect dialect allowed scanner) := by
  induction allowed generalizing scanner with
  | zero => exact absurd enough (Nat.not_lt_zero _)
  | succ allowed ih =>
      rw [collect_succ, resume]
      split
      · next ends => exact ⟨[], _, rfl, ends, List.forall_mem_nil _⟩
      · next further =>
        have further := Bool.eq_false_iff.mpr further
        have fewer := Scanner.potential_next_lt usual nonempty further
        have enough : (scanner.next dialect).2.potential < allowed := by omega
        obtain ⟨earlier, last, same, ends, others⟩ := ih enough
        exact ⟨_ :: earlier, last, congrArg _ same, ends,
          List.forall_mem_cons.mpr ⟨further, others⟩⟩

theorem drawn_eq_collect (count : Nat) :
    Feed.drawn dialect ⟨scanner, false⟩ count =
      (Scanner.collect dialect allowed scanner)[count]? := by
  induction allowed generalizing scanner count with
  | zero => exact absurd enough (Nat.not_lt_zero _)
  | succ allowed ih =>
      rw [collect_succ, resume]
      cases count with
      | zero => split <;> rfl
      | succ count =>
          rw [Feed.drawn_succ]
          split
          · next ends =>
            rw [ends, Feed.drawn_done]
            rfl
          · next further =>
            have further := Bool.eq_false_iff.mpr further
            have fewer := Scanner.potential_next_lt usual nonempty further
            rw [further, List.getElem?_cons_succ]
            exact ih (by omega) count

end

/-- Scanning always ends. The tokens of a source can be drawn one after the other; they are at most
two for each character and two more, the last of them and no other ends the stream, and nothing
comes after it. The loops that pass over comment tags and dropped texts, over the blanks of a line,
and over blanks and comments end wherever they begin, before every character had a round of its
own. -/
theorem scanning_ends {dialect : Dialect} (usual : dialect.symbols = .standard)
    (nonempty : dialect.closing.toList ≠ []) (unmarked : dialect.closing.toList.head? ≠ some '#')
    (source : String) :
    (scan dialect source).length ≤ 2 * source.toList.length + 2 ∧
      Ended (scan dialect source) ∧
      (∀ count, (Feed.start source).drawn dialect count = (scan dialect source)[count]?) ∧
      (∀ (scanner : Scanner) allowed, scanner.rest.length < allowed →
        runLoop (Scanner.textRound dialect) allowed scanner =
          some (scanner.trimLine.textToken dialect)) ∧
      ∀ (text : List Char) allowed, text.length < allowed →
        runLoop lineRound allowed text = some (text.drop (lineBlankSize text)) ∧
        runLoop (blankRound dialect.closing.toList) allowed text =
          some (text.drop (blankSize dialect.closing.toList false text)) := by
  have enough : (Scanner.start source).potential < 2 * source.toList.length + 2 := by
    rw [Scanner.potential_start]
    exact Nat.lt_succ_self _
  exact ⟨length_collect_le _ _ _, ended_collect usual nonempty enough,
    drawn_eq_collect usual nonempty enough,
    fun _ _ => Scanner.runLoop_textRound nonempty,
    fun _ _ enough => ⟨runLoop_lineRound enough, runLoop_blankRound nonempty unmarked enough⟩⟩

/-- An empty opening: the tag opens without taking anything. -/
theorem scanning_ends_unopened :
    Ended (scan ⟨"", "]", 9, .standard⟩ "a]") ∧
      (Feed.start "a]").drawn ⟨"", "]", 9, .standard⟩ 4 = none := by
  have usual : (Dialect.mk "" "]" 9 .standard).symbols = .standard := rfl
  have ends := scanning_ends usual (by decide) (by decide) "a]"
  refine ⟨ends.2.1, (ends.2.2.1 4).trans ?_⟩
  decide +kernel

end Token

end Stencil

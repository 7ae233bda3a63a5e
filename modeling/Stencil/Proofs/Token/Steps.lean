import Stencil.Token.Scan

/-!
# Steps of the scanner

What the scanner does next, by what stands before it: outside tags by the next opening, inside tags
by the closing and by the piece that comes first.
-/

namespace Stencil.Token

open Text (cut?)

/-- Kinds of tokens that can stand inside a tag. -/
def Kind.isInner : Kind → Bool
  | rawText | eof | error | tagStart | tagEnd => Bool.false
  | _ => Bool.true

theorem endsStream_of_isInner {kind : Kind} (inner : kind.isInner = true) :
    kind.endsStream = false := by
  cases kind <;> first | rfl | cases inner

theorem isInner_of_standard :
    ∀ symbol ∈ SymbolTable.standard.symbols, symbol.kind.isInner = true := by
  decide

/-- The dash of an opening, of a closing or of a number, if it has one. -/
def dash (present : Bool) : List Char :=
  if present then ['-'] else []

/-- The token that a text begins with, where it is neither empty nor begins with the closing. -/
def pieceAt (dialect : Dialect) (last : Option Kind) (text : List Char) : Except ScanFault Piece :=
  match number? last text with
  | some result => result
  | none =>
      match string? text with
      | some result => result
      | none =>
          match symbol? dialect.symbols text with
          | some piece => .ok piece
          | none => nameOrError dialect.closing.toList text

/-- What is kept of the text before an opening: a dash in the opening drops the blanks at the end. -/
def keptText (text after : List Char) : List Char :=
  if after.head? = some '-' then Text.trimEnd text else text

namespace Scanner

variable {dialect : Dialect} {scanner : Scanner}

/-! ## Outside tags -/

section

variable (unfinished : scanner.rest ≠ [])

theorem textToken_finished (finished : scanner.rest = []) :
    scanner.textToken dialect = scanner.emit .eof [] 0 := by
  rw [textToken, dif_pos finished]

include unfinished

theorem textToken_plain (missed : cut? dialect.opening.toList scanner.rest = none) :
    scanner.textToken dialect = scanner.emit .rawText scanner.rest scanner.rest.length := by
  rw [textToken, dif_neg unfinished]
  simp only [missed]

theorem textToken_unclosed {after : List Char}
    (found : cut? dialect.opening.toList scanner.rest = some ([], after))
    (marked : after.head? = some '#') (missed : cut? dialect.closing.toList after = none) :
    scanner.textToken dialect =
      (scanner.moveBy scanner.rest.length).failAt (scanner.moveBy scanner.rest.length).place
        (.unclosedComment dialect.closing) := by
  rw [textToken, dif_neg unfinished]
  simp only [found, marked, if_true, missed]

theorem textToken_comment {after inside behind : List Char}
    (found : cut? dialect.opening.toList scanner.rest = some ([], after))
    (marked : after.head? = some '#')
    (closed : cut? dialect.closing.toList after = some (inside, behind))
    (positive : 0 < dialect.opening.toList.length + inside.length +
      dialect.closing.toList.length) :
    scanner.textToken dialect =
      (scanner.moveBy (dialect.opening.toList.length + inside.length +
        dialect.closing.toList.length)).textToken dialect := by
  rw [textToken, dif_neg unfinished]
  simp only [found, marked, if_true, closed, positive, dif_pos]

theorem textToken_stuck {after inside behind : List Char}
    (found : cut? dialect.opening.toList scanner.rest = some ([], after))
    (marked : after.head? = some '#')
    (closed : cut? dialect.closing.toList after = some (inside, behind))
    (empty : ¬0 < dialect.opening.toList.length + inside.length +
      dialect.closing.toList.length) :
    scanner.textToken dialect =
      scanner.failAt scanner.place (.unclosedComment dialect.closing) := by
  rw [textToken, dif_neg unfinished]
  simp only [found, marked, if_true, closed, empty, dif_neg, not_false_eq_true]

theorem textToken_opening {after : List Char}
    (found : cut? dialect.opening.toList scanner.rest = some ([], after))
    (unmarked : after.head? ≠ some '#') :
    scanner.textToken dialect = scanner.openTag dialect (after.head? = some '-') := by
  rw [textToken, dif_neg unfinished]
  simp only [found, unmarked, if_false]

theorem textToken_dropped {first : Char} {before after : List Char}
    (found : cut? dialect.opening.toList scanner.rest = some (first :: before, after))
    (dropped : keptText (first :: before) after = []) :
    scanner.textToken dialect = (scanner.moveBy (before.length + 1)).textToken dialect := by
  unfold keptText at dropped
  rw [textToken, dif_neg unfinished]
  simp only [found, dropped, if_true]

theorem textToken_text {first : Char} {before after : List Char}
    (found : cut? dialect.opening.toList scanner.rest = some (first :: before, after))
    (kept : keptText (first :: before) after ≠ []) :
    scanner.textToken dialect =
      scanner.emit .rawText (keptText (first :: before) after) (before.length + 1) := by
  unfold keptText at kept ⊢
  rw [textToken, dif_neg unfinished]
  simp only [found, kept, if_false]

end

/-! ## Inside tags -/

/-- The scanner behind the blanks and comments before it. -/
def skipBlanks (dialect : Dialect) (scanner : Scanner) : Scanner :=
  scanner.moveBy (blankSize dialect.closing.toList false scanner.rest)

theorem tagToken_unclosed (finished : (scanner.skipBlanks dialect).rest = []) :
    scanner.tagToken dialect = (scanner.skipBlanks dialect).failAt
      (scanner.skipBlanks dialect).place (.unclosedTag dialect.closing) := by
  unfold tagToken
  exact if_pos finished

section

variable (unfinished : (scanner.skipBlanks dialect).rest ≠ [])

include unfinished

theorem tagToken_closing {trims : Bool} {size : Nat}
    (closes : closing? dialect.closing.toList (scanner.skipBlanks dialect).rest =
      some (trims, size)) :
    scanner.tagToken dialect =
      (((scanner.skipBlanks dialect).emit .tagEnd dialect.closing.toList size).1,
        { ((scanner.skipBlanks dialect).emit .tagEnd dialect.closing.toList size).2 with
          inTag := false, trims }) := by
  unfold skipBlanks at unfinished closes ⊢
  simp only [tagToken, unfinished, closes, if_false]

theorem tagToken_eq
    (inside : closing? dialect.closing.toList (scanner.skipBlanks dialect).rest = none) :
    scanner.tagToken dialect =
      match pieceAt dialect scanner.last (scanner.skipBlanks dialect).rest with
      | .ok piece =>
          (scanner.skipBlanks dialect).emit piece.kind piece.value piece.size
      | .error fault =>
          (scanner.skipBlanks dialect).failAt (scanner.skipBlanks dialect).place fault := by
  unfold skipBlanks at unfinished inside ⊢
  simp only [tagToken, unfinished, inside, if_false, pieceAt]
  have same : (scanner.moveBy (blankSize dialect.closing.toList false scanner.rest)).last =
      scanner.last := rfl
  rw [same]
  cases number? scanner.last _ with
  | some result => rfl
  | none =>
      dsimp only
      cases string? _ with
      | some result => rfl
      | none =>
          dsimp only
          cases symbol? dialect.symbols _ with
          | some piece => rfl
          | none => rfl

end

end Scanner

/-! ## Streams -/

/-- The tokens from a step of the scanner on. -/
def resume (dialect : Dialect) (allowed : Nat) (step : Token × Scanner) : List Token :=
  if step.1.kind.endsStream then [step.1] else step.1 :: Scanner.collect dialect allowed step.2

theorem collect_succ (dialect : Dialect) (allowed : Nat) (scanner : Scanner) :
    Scanner.collect dialect (allowed + 1) scanner =
      resume dialect allowed (scanner.next dialect) :=
  rfl

section

variable {dialect : Dialect} {allowed : Nat} {token : Token} {next : Scanner}

theorem resume_of_further (further : token.kind.endsStream = false) :
    resume dialect allowed (token, next) = token :: Scanner.collect dialect allowed next := by
  simp [resume, further]

theorem resume_of_ending (ends : token.kind.endsStream = true) :
    resume dialect allowed (token, next) = [token] := by
  simp [resume, ends]

end

end Stencil.Token

import Mathlib.Data.List.Chain
import Stencil.Proofs.Token.Lexemes

/-!
# Written tags

A tag is written as the texts of its tokens with gaps between them. Scanning it gives back the
tokens, with their kinds and values.
-/

namespace Stencil.Token

open Unicode (isBlank)
open Text (cut?)

/-- A part of what separates tokens: a blank, or a comment with the end of its line. -/
inductive GapPart where
  | blank (c : Char) (blank : isBlank c = true)
  | comment (inside : List Char) (line : '\n' ∉ inside)
      (unclosed : ¬Dialect.standard.closing.toList <:+: inside)

def GapPart.written : GapPart → List Char
  | blank c _ => [c]
  | comment inside _ _ => '#' :: (inside ++ ['\n'])

/-- What separates tokens. -/
structure Gap where
  first : GapPart
  more : List GapPart

namespace Gap

def written (gap : Gap) : List Char :=
  gap.first.written ++ gap.more.flatMap GapPart.written

/-- Gaps that do not turn the tag into a comment. -/
def IsBlankFirst (gap : Gap) : Prop :=
  match gap.first with
  | .blank _ _ => True
  | .comment _ _ _ => False

end Gap

/-- Tokens, each with the gap behind it. -/
def writtenTokens (tokens : List (Lexeme × Gap)) : List Char :=
  tokens.flatMap fun (lexeme, gap) => lexeme.written ++ gap.written

def writtenTag (first : Gap) (tokens : List (Lexeme × Gap)) : List Char :=
  Dialect.standard.opening.toList ++
    (first.written ++ (writtenTokens tokens ++ Dialect.standard.closing.toList))

/-- Each token may follow the one before it. -/
def Following : Option Kind → List Lexeme → Prop
  | _, [] => True
  | last, lexeme :: rest => lexeme.Follows last ∧ Following (some lexeme.kind) rest

theorem opening_standard : Dialect.standard.opening.toList = ['[', '%'] := by
  decide

/-! ## Gaps -/

theorem not_isPrefixOf_of_comment {target inside rest : List Char} (line : '\n' ∉ target)
    (unclosed : ¬target <:+: inside) : target.isPrefixOf (inside ++ '\n' :: rest) = false := by
  refine Bool.eq_false_iff.mpr fun starts => unclosed ?_
  exact (Text.prefix_of_append_cons line (List.isPrefixOf_iff_prefix.mp starts)).isInfix

theorem blankSize_comment {closing inside : List Char} (single : '\n' ∉ closing)
    (line : '\n' ∉ inside) (unclosed : ¬closing <:+: inside) (rest : List Char) :
    blankSize closing true (inside ++ '\n' :: rest) =
      inside.length + 1 + blankSize closing false rest := by
  induction inside with
  | nil =>
      show blankSize closing true ('\n' :: rest) = _
      rw [blankSize, if_pos rfl, if_pos rfl]
      simp only [List.length_nil]
      omega
  | cons c inside ih =>
      obtain ⟨other, line⟩ := not_or.mp (mt List.mem_cons.mpr line)
      have further : ¬closing <:+: inside := fun occurs => unclosed (List.infix_cons occurs)
      have here : closing.isPrefixOf (c :: inside ++ '\n' :: rest) = false :=
        not_isPrefixOf_of_comment single unclosed
      have behind : closing.isPrefixOf (inside ++ '\n' :: rest) = false :=
        not_isPrefixOf_of_comment single further
      rw [List.cons_append] at here ⊢
      simp only [blankSize, here, behind, Ne.symm other, if_true, if_false, Bool.false_eq_true,
        and_false, ih line further, List.length_cons]
      omega

theorem blankSize_part (part : GapPart) (rest : List Char) :
    blankSize Dialect.standard.closing.toList false (part.written ++ rest) =
      part.written.length + blankSize Dialect.standard.closing.toList false rest := by
  cases part with
  | blank c blank =>
      show blankSize _ false (c :: rest) = 1 + _
      rw [blankSize, if_neg nofun, if_pos blank, Nat.add_comm]
  | comment inside line unclosed =>
      have single : '\n' ∉ Dialect.standard.closing.toList := by
        rw [closing_standard]
        decide
      show blankSize _ false ('#' :: (inside ++ ['\n'] ++ rest)) = _
      rw [blankSize, if_neg nofun, if_neg (by decide), if_pos rfl, List.append_assoc,
        List.singleton_append, blankSize_comment single line unclosed]
      simp only [GapPart.written, List.length_cons, List.length_append, List.length_nil]
      omega

theorem blankSize_gap (gap : Gap) (rest : List Char) :
    blankSize Dialect.standard.closing.toList false (gap.written ++ rest) =
      gap.written.length + blankSize Dialect.standard.closing.toList false rest := by
  obtain ⟨first, more⟩ := gap
  have others : blankSize Dialect.standard.closing.toList false
      (more.flatMap GapPart.written ++ rest) =
        (more.flatMap GapPart.written).length +
          blankSize Dialect.standard.closing.toList false rest := by
    induction more with
    | nil => exact (Nat.zero_add _).symm
    | cons part more ih =>
        rw [List.flatMap_cons, List.append_assoc, blankSize_part, ih, List.length_append,
          Nat.add_assoc]
  rw [Gap.written, List.append_assoc, blankSize_part, others, List.length_append, Nat.add_assoc]

theorem separated_gap (gap : Gap) (rest : List Char) : Separated (gap.written ++ rest) := by
  obtain ⟨first, more⟩ := gap
  cases first with
  | blank c blank => exact ⟨c, _, rfl, .inl blank⟩
  | comment inside line unclosed => exact ⟨'#', _, rfl, .inr rfl⟩

/-! ## Scanning -/

/-- What a token says, wherever it stands. -/
def content (token : Token) : Kind × String :=
  (token.kind, token.value)

def Lexeme.content (lexeme : Lexeme) : Kind × String :=
  (lexeme.kind, .ofList lexeme.value)

theorem Lexeme.endsStream_kind (lexeme : Lexeme) : lexeme.kind.endsStream = false := by
  cases lexeme with
  | symbol symbol listed => exact endsStream_of_isInner (isInner_of_standard symbol listed)
  | _ => rfl

theorem Lexeme.closing?_written (lexeme : Lexeme) {after : List Char} (separated : Separated after) :
    closing? Dialect.standard.closing.toList (lexeme.written ++ after) = none := by
  have unclosed (dashed : Bool) : (dash dashed ++ Dialect.standard.closing.toList).isPrefixOf
      (lexeme.written ++ after) = false := by
    refine Bool.eq_false_iff.mpr fun starts => lexeme.not_closing dashed ?_
    refine separated.prefix_of_append ?_ (List.isPrefixOf_iff_prefix.mp starts)
    rw [closing_standard]
    cases dashed <;> exact forall_of_isDense (by decide)
  have dashless := unclosed false
  have dashed := unclosed true
  rw [show dash false ++ Dialect.standard.closing.toList = Dialect.standard.closing.toList from rfl]
    at dashless
  rw [show dash true ++ Dialect.standard.closing.toList = '-' :: Dialect.standard.closing.toList
    from rfl] at dashed
  simp only [closing?, dashless, dashed]
  rfl

namespace Scanner

variable {scanner : Scanner}

theorem skipBlanks_written {gap : Gap} {rest : List Char}
    (split : scanner.rest = gap.written ++ rest)
    (unblank : blankSize Dialect.standard.closing.toList false rest = 0) :
    (scanner.skipBlanks .standard).rest = rest := by
  rw [skipBlanks, moveBy, split, blankSize_gap, unblank, Nat.add_zero]
  exact List.drop_left

/-- Behind a gap stands a token. -/
theorem tagToken_written (lexeme : Lexeme) {gap : Gap} {after : List Char}
    (split : scanner.rest = gap.written ++ (lexeme.written ++ after)) (separated : Separated after)
    (follows : lexeme.Follows scanner.last) :
    ∃ token next, scanner.tagToken .standard = (token, next) ∧ token.content = lexeme.content ∧
      next.rest = after ∧ next.inTag = scanner.inTag ∧ next.trims = scanner.trims ∧
      next.last = some lexeme.kind := by
  obtain ⟨first, rest, same, unblank, unmarked⟩ := lexeme.exists_cons
  have size : blankSize Dialect.standard.closing.toList false (lexeme.written ++ after) = 0 := by
    rw [same, List.cons_append, blankSize, if_neg nofun, if_neg (by rw [unblank]; exact nofun),
      if_neg unmarked]
  have skipped := skipBlanks_written split size
  have unfinished : (scanner.skipBlanks .standard).rest ≠ [] := by
    rw [skipped, same]
    exact nofun
  have unclosed := lexeme.closing?_written separated
  rw [← skipped] at unclosed
  have found := lexeme.pieceAt_written separated follows
  rw [tagToken_eq unfinished unclosed, skipped, found]
  refine ⟨_, _, rfl, rfl, ?_, rfl, rfl, rfl⟩
  show (scanner.skipBlanks .standard).rest.drop _ = after
  rw [skipped]
  exact List.drop_left

/-- Behind the last gap the tag is closed, and the input ends. -/
theorem collect_closing {gap : Gap} {allowed : Nat} (inTag : scanner.inTag = true)
    (split : scanner.rest = gap.written ++ Dialect.standard.closing.toList) :
    (collect .standard (allowed + 2) scanner).map Token.content =
      [(.tagEnd, "%]"), (.eof, "")] := by
  have skipped := skipBlanks_written split (by rw [closing_standard]; decide)
  have unfinished : (scanner.skipBlanks .standard).rest ≠ [] := by
    rw [skipped, closing_standard]
    exact nofun
  have closes : closing? Dialect.standard.closing.toList (scanner.skipBlanks .standard).rest =
      some (false, 2) := by
    rw [skipped, closing_standard]
    decide
  rw [collect_succ, next, if_pos inTag, tagToken_closing unfinished closes,
    resume_of_further rfl, collect_succ, next, if_neg nofun, trimLine, if_neg nofun,
    textToken_finished, resume_of_ending rfl]
  · have closing : String.ofList Dialect.standard.closing.toList = "%]" := String.ofList_toList
    exact congrArg (fun value => [(Kind.tagEnd, value), (.eof, "")]) closing
  · show (scanner.skipBlanks .standard).rest.drop 2 = []
    rw [skipped, closing_standard]
    rfl

theorem collect_written {tokens : List (Lexeme × Gap)} {gap : Gap} {allowed : Nat}
    (inTag : scanner.inTag = true)
    (split : scanner.rest =
      gap.written ++ (writtenTokens tokens ++ Dialect.standard.closing.toList))
    (following : Following scanner.last (tokens.map Prod.fst))
    (enough : tokens.length + 2 ≤ allowed) :
    (collect .standard allowed scanner).map Token.content =
      tokens.map (fun token => token.1.content) ++ [(.tagEnd, "%]"), (.eof, "")] := by
  induction tokens generalizing gap allowed scanner with
  | nil =>
      obtain ⟨fewer, rfl⟩ := Nat.exists_eq_add_of_le' enough
      exact collect_closing inTag split
  | cons token tokens ih =>
      obtain ⟨lexeme, behind⟩ := token
      obtain ⟨fewer, rfl⟩ := Nat.exists_eq_add_of_le' enough
      have split' : scanner.rest = gap.written ++ (lexeme.written ++
          (behind.written ++ (writtenTokens tokens ++ Dialect.standard.closing.toList))) := by
        rw [split, writtenTokens, List.flatMap_cons, ← writtenTokens]
        simp only [List.append_assoc]
      obtain ⟨token, later, step, same, rest, stays, -, last⟩ :=
        tagToken_written lexeme split' (separated_gap behind _) following.1
      have further : token.kind.endsStream = false := by
        rw [show token.kind = lexeme.kind from congrArg Prod.fst same]
        exact lexeme.endsStream_kind
      rw [← Nat.add_assoc, collect_succ, next, if_pos inTag, step, resume_of_further further,
        List.map_cons, same,
        ih (stays.trans inTag) rest (by rw [last]; exact following.2) (by simp)]
      rfl

end Scanner

theorem length_le_written (tokens : List (Lexeme × Gap)) :
    tokens.length ≤ (writtenTokens tokens).length := by
  induction tokens with
  | nil => exact Nat.le_refl _
  | cons token tokens ih =>
      obtain ⟨lexeme, gap⟩ := token
      obtain ⟨first, rest, same, -⟩ := lexeme.exists_cons
      have size : 0 < lexeme.written.length := by
        rw [same]
        exact Nat.succ_pos _
      rw [writtenTokens, List.flatMap_cons, ← writtenTokens]
      simp only [List.length_cons, List.length_append]
      omega

theorem scan_written (first : Gap) (tokens : List (Lexeme × Gap)) (blank : first.IsBlankFirst)
    (following : Following (some .tagStart) (tokens.map Prod.fst)) :
    (scan .standard (.ofList (writtenTag first tokens))).map content =
      (.tagStart, "[%") :: tokens.map (fun token => token.1.content) ++
        [(.tagEnd, "%]"), (.eof, "")] := by
  obtain ⟨part, more⟩ := first
  cases part with
  | comment inside line unclosed => exact blank.elim
  | blank c space =>
      let gap : Gap := ⟨.blank c space, more⟩
      let inside := gap.written ++ (writtenTokens tokens ++ Dialect.standard.closing.toList)
      have rest : (Scanner.start (.ofList (writtenTag gap tokens))).rest =
          Dialect.standard.opening.toList ++ inside := String.toList_ofList
      have unfinished : (Scanner.start (.ofList (writtenTag gap tokens))).rest ≠ [] := by
        rw [rest, opening_standard]
        exact nofun
      have found := Text.cut?_append Dialect.standard.opening.toList inside
        (by rw [opening_standard]; exact nofun)
      rw [← rest] at found
      have head : inside.head? = some c := rfl
      have unmarked : inside.head? ≠ some '#' := by
        rw [head]
        exact fun same => Unicode.ne_of_isBlank space rfl (Option.some.inj same)
      have undashed : decide (inside.head? = some '-') = false := by
        rw [head]
        exact decide_eq_false fun same => Unicode.ne_of_isBlank space rfl (Option.some.inj same)
      have enough : tokens.length + 2 ≤
          2 * (String.ofList (writtenTag gap tokens)).toList.length + 1 := by
        have few := length_le_written tokens
        have size := congrArg List.length (String.toList_ofList (l := writtenTag gap tokens))
        simp only [writtenTag, opening_standard, List.length_append, List.length_cons] at size ⊢
        omega
      let opened := (Scanner.start (.ofList (writtenTag gap tokens))).openTag .standard false
      have behind : opened.2.rest = inside := by
        show (Scanner.start (.ofList (writtenTag gap tokens))).rest.drop _ = inside
        rw [rest]
        exact List.drop_left
      have opening : opened.1.content = (.tagStart, "[%") :=
        congrArg (Prod.mk Kind.tagStart) String.ofList_toList
      rw [scan, collect_succ, Scanner.next, if_neg nofun, Scanner.trimLine, if_neg nofun,
        Scanner.textToken_opening unfinished found unmarked, undashed]
      show content opened.1 :: (Scanner.collect _ _ opened.2).map content = _
      rw [opening, Scanner.collect_written rfl behind following enough]
      rfl

/-! ## Numbers without a sign -/

namespace Lexeme

def IsUnsigned : Lexeme → Prop
  | number negative _ => negative = false
  | _ => True

/-- A number that can be the index of an element; other tokens can stand behind a dot anyway. -/
def IsIndex : Lexeme → Prop
  | number _ numeral => numeral.IsPlain
  | _ => True

theorem follows_of_isUnsigned {lexeme : Lexeme} {last : Option Kind} (unsigned : lexeme.IsUnsigned)
    (indexed : last = some .dot → lexeme.IsIndex) : lexeme.Follows last := by
  cases lexeme with
  | number negative numeral =>
      cases negative with
      | false => exact indexed
      | true => cases unsigned
  | _ => exact trivial

end Lexeme

theorem following_of_isUnsigned {last : Option Kind} {lexemes : List Lexeme}
    (unsigned : ∀ lexeme ∈ lexemes, lexeme.IsUnsigned)
    (first : last = some .dot → ∀ lexeme ∈ lexemes.head?, lexeme.IsIndex)
    (indexed : lexemes.IsChain fun before lexeme => before.kind = .dot → lexeme.IsIndex) :
    Following last lexemes := by
  induction lexemes generalizing last with
  | nil => exact trivial
  | cons lexeme rest ih =>
      obtain ⟨here, others⟩ := List.forall_mem_cons.mp unsigned
      refine ⟨Lexeme.follows_of_isUnsigned here fun dotted => first dotted lexeme rfl, ?_⟩
      cases rest with
      | nil => exact trivial
      | cons second rest =>
          obtain ⟨pair, later⟩ := List.isChain_cons_cons.mp indexed
          refine ih others (fun dotted lexeme same => ?_) later
          cases same
          exact pair (Option.some.inj dotted)

/-- Scanning a written tag gives back its tokens, where a number behind a dot has only digits. -/
theorem tag_scanned (first : Gap) (tokens : List (Lexeme × Gap)) (blank : first.IsBlankFirst)
    (unsigned : ∀ token ∈ tokens, token.1.IsUnsigned)
    (indexed : (tokens.map Prod.fst).IsChain fun before lexeme =>
      before.kind = .dot → lexeme.IsIndex) :
    (scan .standard (.ofList (writtenTag first tokens))).map content =
      (.tagStart, "[%") :: tokens.map (fun token => token.1.content) ++
        [(.tagEnd, "%]"), (.eof, "")] := by
  refine scan_written first tokens blank (following_of_isUnsigned ?_ nofun indexed)
  intro lexeme inside
  obtain ⟨token, within, rfl⟩ := List.mem_map.mp inside
  exact unsigned token within

section

/-- A blank and a comment. -/
def mixed : Gap :=
  ⟨.blank ' ' (by decide), [.comment ['-', '%', 'x'] (by decide) (by decide +kernel)]⟩

def digit : Digits :=
  ⟨['7'], nofun, List.forall_mem_singleton.mpr rfl⟩

theorem quoted : '"' = '"' ∨ '"' = '\'' :=
  .inl rfl

/-- A name, an index, a number with all parts, a number of base sixteen and a string with quotes. -/
def varied : List (Lexeme × Gap) :=
  [(.name (.small 'l' ['s'] rfl (by decide +kernel)), mixed),
    (.symbol ⟨".", .dot, 0x3ff0000000000000⟩ (by decide +kernel), mixed),
    (.number false (.decimal digit none none), mixed),
    (.number false (.decimal digit (some digit) (some ⟨'e', .inl rfl, ['-'], by decide, digit⟩)), mixed),
    (.number false (.hex 'X' (.inr rfl) ['f'] nofun (List.forall_mem_singleton.mpr rfl)), mixed),
    (.string '"' quoted ['"', '\\', '\n'], mixed)]

theorem varied_scanned :
    (scan .standard (.ofList (writtenTag mixed varied))).map content =
      (.tagStart, "[%") :: varied.map (fun token => token.1.content) ++
        [(.tagEnd, "%]"), (.eof, "")] := by
  refine tag_scanned mixed varied trivial ?_ ?_
  · simp only [varied, List.forall_mem_cons]
    exact ⟨trivial, trivial, rfl, rfl, rfl, trivial, List.forall_mem_nil _⟩
  · simp only [varied, List.map_cons, List.isChain_cons_cons]
    refine ⟨?_, fun _ => trivial, ?_, ?_, ?_, .singleton _⟩ <;> intro dotted <;> cases dotted

end

end Stencil.Token

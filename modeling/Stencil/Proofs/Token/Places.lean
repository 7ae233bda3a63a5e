import Stencil.Proofs.Token.Steps

/-!
# Places of tokens

The scanner moves over the source without leaving anything out, so that the place of each token is
the place of some part of the source, and no token is placed before an earlier one.
-/

namespace Stencil

/-- The offset and the line of a place count what stands before it in a source. -/
def Place.In (source : List Char) (place : Place) : Prop :=
  ∃ before rest, source = before ++ rest ∧
    place.offset = (String.ofList before).utf8ByteSize ∧ place.line = 1 + before.count '\n'

theorem Place.offset_after (place : Place) (text : List Char) :
    (place.after text).offset = place.offset + (String.ofList text).utf8ByteSize := by
  induction text generalizing place with
  | nil => rfl
  | cons first rest ih =>
      show ((place.step first).after rest).offset = _
      rw [ih, String.ofList_cons, String.utf8ByteSize_append, String.utf8ByteSize_singleton,
        ← Nat.add_assoc]
      rfl

theorem Place.in_after (before rest : List Char) : (start.after before).In (before ++ rest) := by
  refine ⟨before, rest, rfl, ?_, line_after start before⟩
  rw [offset_after]
  exact Nat.zero_add _

namespace Token.Scanner

variable {scanner next last : Scanner} {passed further : List Char} {token : Token}

/-- What a scanner has passed over on its way to another one. -/
structure Passes (scanner : Scanner) (passed : List Char) (next : Scanner) : Prop where
  rest : scanner.rest = passed ++ next.rest
  place : next.place = scanner.place.after passed

namespace Passes

theorem refl (scanner : Scanner) : Passes scanner [] scanner :=
  ⟨rfl, rfl⟩

theorem trans (first : Passes scanner passed next) (second : Passes next further last) :
    Passes scanner (passed ++ further) last where
  rest := by rw [first.rest, second.rest, List.append_assoc]
  place := by rw [second.place, first.place, Place.after_append]

theorem moveBy (scanner : Scanner) (size : Nat) :
    Passes scanner (scanner.rest.take size) (scanner.moveBy size) :=
  ⟨(List.take_append_drop size scanner.rest).symm, rfl⟩

theorem offset_le (passes : Passes scanner passed next) :
    scanner.place.offset ≤ next.place.offset := by
  rw [passes.place]
  exact Place.offset_le_after _ _

end Passes

/-- A token stands between what is passed over before it and the rest. -/
def Yields (scanner : Scanner) (token : Token) (next : Scanner) : Prop :=
  ∃ gap found taken, scanner.Passes gap found ∧ token.place = found.place ∧ found.Passes taken next

/-- More can be passed over before a token. -/
theorem Yields.later {middle : Scanner} (passes : scanner.Passes passed middle)
    (yields : middle.Yields token next) : scanner.Yields token next := by
  obtain ⟨gap, found, taken, before, place, after⟩ := yields
  exact ⟨_, found, taken, passes.trans before, place, after⟩

/-- Only where a scanner stands matters for what it yields. -/
theorem Yields.at {other : Scanner} (yields : scanner.Yields token next)
    (rest : other.rest = next.rest) (place : other.place = next.place) :
    scanner.Yields token other := by
  obtain ⟨gap, found, taken, before, standing, after⟩ := yields
  exact ⟨gap, found, taken, before, standing, by rw [rest, after.rest], by rw [place, after.place]⟩

theorem yields_emit (scanner : Scanner) (kind : Kind) (value : List Char) (size : Nat) :
    scanner.Yields (scanner.emit kind value size).1 (scanner.emit kind value size).2 := by
  have passes := Passes.moveBy scanner size
  exact ⟨[], scanner, _, .refl _, rfl, passes.rest, passes.place⟩

theorem yields_failAt (scanner : Scanner) (fault : ScanFault) :
    scanner.Yields (scanner.failAt scanner.place fault).1
      (scanner.failAt scanner.place fault).2 :=
  ⟨[], scanner, [], .refl _, rfl, rfl, rfl⟩

theorem yields_tagToken (dialect : Dialect) (scanner : Scanner) :
    scanner.Yields (scanner.tagToken dialect).1 (scanner.tagToken dialect).2 := by
  have skipped := Passes.moveBy scanner (blankSize dialect.closing.toList false scanner.rest)
  by_cases finished : (scanner.skipBlanks dialect).rest = []
  · rw [tagToken_unclosed finished]
    exact (yields_failAt _ _).later skipped
  · cases closes : closing? dialect.closing.toList (scanner.skipBlanks dialect).rest with
    | some found =>
        have shown := yields_emit (scanner.skipBlanks dialect) .tagEnd dialect.closing.toList found.2
        rw [tagToken_closing finished closes]
        refine .later skipped ?_
        exact shown.at rfl rfl
    | none =>
        rw [tagToken_eq finished closes]
        cases pieceAt dialect scanner.last (scanner.skipBlanks dialect).rest with
        | ok piece => exact (yields_emit _ _ _ _).later skipped
        | error fault => exact (yields_failAt _ _).later skipped

theorem yields_textToken (dialect : Dialect) (scanner : Scanner) :
    scanner.Yields (scanner.textToken dialect).1 (scanner.textToken dialect).2 := by
  induction scanner using textToken.induct dialect with
  | case1 scanner finished =>
      rw [textToken_finished finished]
      exact yields_emit _ _ _ _
  | case2 scanner unfinished missed =>
      rw [textToken_plain unfinished missed]
      exact yields_emit _ _ _ _
  | case3 scanner unfinished after found marked missed =>
      rw [textToken_unclosed unfinished found marked missed]
      exact (yields_failAt _ _).later (.moveBy scanner _)
  | case4 scanner unfinished after found marked inside behind closed size positive _ ih =>
      rw [textToken_comment unfinished found marked closed positive]
      exact ih.later (.moveBy scanner _)
  | case5 scanner unfinished after found marked inside behind closed size empty =>
      rw [textToken_stuck unfinished found marked closed empty]
      exact yields_failAt _ _
  | case6 scanner unfinished after found unmarked =>
      rw [textToken_opening unfinished found unmarked]
      exact (yields_emit _ _ _ _).at rfl rfl
  | case7 scanner unfinished first before after found text dropped _ ih =>
      rw [textToken_dropped unfinished found dropped]
      exact ih.later (.moveBy scanner _)
  | case8 scanner unfinished first before after found text kept =>
      rw [textToken_text unfinished found kept]
      exact yields_emit _ _ _ _

theorem yields_next (dialect : Dialect) (scanner : Scanner) :
    scanner.Yields (scanner.next dialect).1 (scanner.next dialect).2 := by
  unfold next
  split
  · exact yields_tagToken dialect scanner
  · have trimmed : ∃ passed, scanner.Passes passed scanner.trimLine := by
      unfold trimLine
      split
      · have passes := Passes.moveBy scanner (lineBlankSize scanner.rest)
        exact ⟨_, passes.rest, passes.place⟩
      · exact ⟨[], .refl scanner⟩
    obtain ⟨passed, passes⟩ := trimmed
    exact (yields_textToken dialect scanner.trimLine).later passes

/-- Where all of a source up to a scanner was passed over, the tokens that follow have places in the
source, not before the scanner and in their order. -/
theorem placed_collect (dialect : Dialect) (allowed : Nat) {source : List Char} (start : Scanner)
    (passes : start.Passes passed scanner) (begins : start.rest = source)
    (first : start.place = .start) :
    (∀ token ∈ collect dialect allowed scanner, token.place.In source ∧
      scanner.place.offset ≤ token.place.offset) ∧
    (collect dialect allowed scanner).Pairwise (·.place.offset ≤ ·.place.offset) := by
  induction allowed generalizing scanner passed with
  | zero => exact ⟨List.forall_mem_nil _, .nil⟩
  | succ allowed ih =>
      rw [collect]
      obtain ⟨gap, found, taken, before, place, after⟩ := yields_next dialect scanner
      generalize scanner.next dialect = step at place after
      obtain ⟨token, rest⟩ := step
      have here : token.place.In source ∧ scanner.place.offset ≤ token.place.offset := by
        have whole := passes.trans before
        rw [place]
        refine ⟨?_, before.offset_le⟩
        rw [whole.place, first, ← begins, whole.rest]
        exact Place.in_after _ _
      dsimp only
      split
      · exact ⟨List.forall_mem_singleton.mpr here, List.pairwise_singleton _ _⟩
      · obtain ⟨placed, ordered⟩ := ih ((passes.trans before).trans after)
        have behind : token.place.offset ≤ rest.place.offset := by
          rw [place]
          exact after.offset_le
        refine ⟨List.forall_mem_cons.mpr ⟨here, fun other inside => ?_⟩,
          List.pairwise_cons.mpr ⟨fun other inside => ?_, ordered⟩⟩
        · obtain ⟨within, later⟩ := placed other inside
          exact ⟨within, Nat.le_trans (Nat.le_trans here.2 behind) later⟩
        · exact Nat.le_trans behind (placed other inside).2

end Token.Scanner

/-- Each token has a place in the source, and no place comes before that of an earlier token. -/
theorem Token.placed_scan (dialect : Dialect) (source : String) :
    (∀ token ∈ scan dialect source, token.place.In source.toList) ∧
      (scan dialect source).Pairwise (·.place.offset ≤ ·.place.offset) := by
  obtain ⟨placed, ordered⟩ := Scanner.placed_collect dialect (2 * source.toList.length + 2)
    (.start source) (.refl (.start source)) rfl rfl
  exact ⟨fun token inside => (placed token inside).1, ordered⟩

end Stencil

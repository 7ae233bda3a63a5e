import Stencil.Proofs.Text.Search
import Stencil.Proofs.Token.Places

/-!
# Segments of a source

A source that is scanned to its end consists of the texts that became tokens, of tags, of comments,
and of the blanks that a dash in a tag asks to drop. Nothing else is lost, and nothing is added.
-/

namespace Stencil

namespace Token

open Unicode (isBlank)
open Scanner (lineBlankSize)
open Text (cut?)

/-- The tokens of a tag: its opening, what stands inside, and its closing. -/
structure Tag where
  opening : Token
  inner : List Token
  closing : Token

def Tag.tokens (tag : Tag) : List Token :=
  tag.opening :: (tag.inner ++ [tag.closing])

inductive Segment where
  | text (token : Token)
  | tag (parts : Tag) (opened : Bool) (inside : List Char) (closed : Bool)
  /-- What stands behind the number sign of a comment. -/
  | comment (inside : List Char)
  | blanks (content : List Char)

namespace Segment

def tokens : Segment → List Token
  | text token => [token]
  | tag parts _ _ _ => parts.tokens
  | comment _ | blanks _ => []

def source (dialect : Dialect) : Segment → List Char
  | text token => token.value.toList
  | tag _ opened inside closed =>
      dialect.opening.toList ++ dash opened ++ inside ++ (dash closed ++ dialect.closing.toList)
  | comment inside => dialect.opening.toList ++ '#' :: inside ++ dialect.closing.toList
  | blanks content => content

/-- A tag with a dash in its opening. -/
def opensDashed : Segment → Bool
  | tag _ opened _ _ => opened
  | _ => false

/-- A tag with a dash in its closing. -/
def closesDashed : Segment → Bool
  | tag _ _ _ closed => closed
  | _ => false

/-- A segment is what it says where it stands, between the segments before and behind it. -/
def Fits (dialect : Dialect) (place : Place) (before behind : Option Segment) : Segment → Prop
  | text token =>
      token.kind = .rawText ∧ token.place = place ∧
        ¬dialect.opening.toList <:+: token.value.toList
  | tag parts opened inside _ =>
      parts.opening.kind = .tagStart ∧ parts.opening.place = place ∧
        (∀ token ∈ parts.inner, token.kind.isInner) ∧ parts.closing.kind = .tagEnd ∧
        parts.closing.place = place.after (dialect.opening.toList ++ dash opened ++ inside)
  | comment inside =>
      ∀ ahead rest, '#' :: inside ++ dialect.closing.toList =
        ahead ++ dialect.closing.toList ++ rest → rest = []
  | blanks content =>
      content ≠ [] ∧ (∀ c ∈ content, isBlank c) ∧
        (behind.any opensDashed ∨ before.any closesDashed ∧ '\n' ∉ content.dropLast)

end Segment

/-- Every segment fits where it stands, when the first stands at a place behind some other. -/
def Fitting (dialect : Dialect) : Place → Option Segment → List Segment → Prop
  | _, _, [] => True
  | place, before, segment :: rest =>
      segment.Fits dialect place before rest.head? ∧
        Fitting dialect (place.after (segment.source dialect)) (some segment) rest

/-- The tokens of a stream end with the end of the input. -/
def Complete (tokens : List Token) : Prop :=
  tokens.getLast?.map Token.kind = some .eof

/-! ## Kinds -/

theorem SymbolTable.mem_of_matchAt {table : SymbolTable} {text : List Char} {symbol : Symbol}
    (matched : table.matchAt text = some symbol) : symbol ∈ table.symbols :=
  List.mem_of_find?_eq_some matched

theorem kind_finish {result : Except ScanFault Nat} {make : Nat → Piece} {piece : Piece}
    (made : ∀ size, (make size).kind = .number) (found : result.map make = .ok piece) :
    piece.kind = .number := by
  cases result with
  | error fault => cases found
  | ok size =>
      cases found
      exact made size

theorem kind_number? {last : Option Kind} {text : List Char} {piece : Piece}
    (found : number? last text = some (.ok piece)) : piece.kind = .number := by
  unfold number? at found
  dsimp only at found
  split at found
  · cases found
  · split at found
    · split at found
      · cases found
        rfl
      · exact kind_finish (fun _ => rfl) (Option.some.inj found)
    · split at found
      · exact kind_finish (fun _ => rfl) (Option.some.inj found)
      · cases found

theorem kind_string? {text : List Char} {piece : Piece}
    (found : string? text = some (.ok piece)) : piece.kind = .string := by
  unfold string? at found
  split at found
  · cases found
  · split at found
    · split at found
      · cases found
        rfl
      · cases found
    · cases found

theorem kind_nameOrError {closing text : List Char} {piece : Piece}
    (found : nameOrError closing text = .ok piece) : piece.kind = .ident := by
  unfold nameOrError at found
  split at found
  · cases found
  · split at found
    · dsimp only at found
      split at found
      · cases found
        rfl
      · cases found
    · cases found

theorem isInner_pieceAt {dialect : Dialect} {last : Option Kind} {text : List Char} {piece : Piece}
    (usual : dialect.symbols = .standard) (found : pieceAt dialect last text = .ok piece) :
    piece.kind.isInner = true := by
  unfold pieceAt at found
  split at found
  · next result number =>
      rw [kind_number? (number.trans (congrArg some found))]
      rfl
  · split at found
    · next result string =>
        rw [kind_string? (string.trans (congrArg some found))]
        rfl
    · split at found
      · next piece symbol =>
          cases found
          obtain ⟨entry, matched, rfl⟩ := Option.map_eq_some_iff.mp symbol
          rw [usual] at matched
          exact isInner_of_standard entry (SymbolTable.mem_of_matchAt matched)
      · rw [kind_nameOrError found]
        rfl

/-! ## Inside tags -/

theorem closing?_eq_some {closing text : List Char} {trims : Bool} {size : Nat}
    (closes : closing? closing text = some (trims, size)) :
    ∃ rest, text = dash trims ++ closing ++ rest ∧ size = (dash trims ++ closing).length := by
  unfold closing? at closes
  split at closes
  · next starts =>
      cases closes
      obtain ⟨rest, rfl⟩ := List.isPrefixOf_iff_prefix.mp starts
      exact ⟨rest, rfl, rfl⟩
  · split at closes
    · next starts =>
        cases closes
        obtain ⟨rest, rfl⟩ := List.isPrefixOf_iff_prefix.mp starts
        exact ⟨rest, rfl, rfl⟩
    · cases closes

namespace Scanner

variable {dialect : Dialect} {scanner : Scanner}

/-- What comes of a step inside a tag: an error, the closing, or a piece of the tag. -/
inductive StepsInside (dialect : Dialect) (scanner : Scanner) : Token × Scanner → Prop
  | error {token : Token} {next : Scanner} (failed : token.kind = .error) : StepsInside dialect scanner (token, next)
  | closing {token : Token} {next : Scanner} {inside : List Char} (closed : Bool) (kind : token.kind = .tagEnd)
      (place : token.place = scanner.place.after inside) (left : next.inTag = false)
      (trims : next.trims = closed)
      (passes : scanner.Passes (inside ++ (dash closed ++ dialect.closing.toList)) next) :
      StepsInside dialect scanner (token, next)
  | piece {token : Token} {next : Scanner} {passed : List Char} (kind : token.kind.isInner = true)
      (stays : next.inTag = scanner.inTag) (passes : scanner.Passes passed next) :
      StepsInside dialect scanner (token, next)

theorem stepsInside_tagToken (usual : dialect.symbols = .standard) (scanner : Scanner) :
    StepsInside dialect scanner (scanner.tagToken dialect) := by
  have skipped := Passes.moveBy scanner (blankSize dialect.closing.toList false scanner.rest)
  by_cases finished : (scanner.skipBlanks dialect).rest = []
  · rw [tagToken_unclosed finished]
    exact .error rfl
  · cases closes : closing? dialect.closing.toList (scanner.skipBlanks dialect).rest with
    | some found =>
        obtain ⟨trims, size⟩ := found
        rw [tagToken_closing finished closes]
        obtain ⟨rest, split, rfl⟩ := closing?_eq_some closes
        have passes := Passes.moveBy (scanner.skipBlanks dialect)
          (dash trims ++ dialect.closing.toList).length
        rw [split, List.take_left] at passes
        have whole := skipped.trans passes
        exact .closing trims rfl skipped.place rfl rfl ⟨whole.rest, whole.place⟩
    | none =>
        rw [tagToken_eq finished closes]
        cases found : pieceAt dialect scanner.last (scanner.skipBlanks dialect).rest with
        | error fault => exact .error rfl
        | ok piece =>
            have passes := skipped.trans (Passes.moveBy (scanner.skipBlanks dialect) piece.size)
            exact .piece (isInner_pieceAt usual found) rfl ⟨passes.rest, passes.place⟩

end Scanner

/-! ## Blanks that are dropped -/

theorem exists_trimmed (text : List Char) :
    ∃ blanks, text = Text.trimEnd text ++ blanks ∧ ∀ c ∈ blanks, isBlank c = true := by
  refine ⟨(text.reverse.takeWhile isBlank).reverse, ?_, ?_⟩
  · rw [Text.trimEnd, ← List.reverse_append, List.takeWhile_append_dropWhile, List.reverse_reverse]
  · intro c inside
    exact List.all_eq_true.mp (List.all_takeWhile) c (List.mem_reverse.mp inside)

/-- What is dropped of the text before an opening are blanks, and only a dash drops them. -/
theorem exists_keptText (text after : List Char) :
    ∃ blanks, text = keptText text after ++ blanks ∧ (∀ c ∈ blanks, isBlank c = true) ∧
      (blanks ≠ [] → after.head? = some '-') := by
  unfold keptText
  split
  · next dashed =>
      obtain ⟨blanks, trimmed, blank⟩ := exists_trimmed text
      exact ⟨blanks, trimmed, blank, fun _ => dashed⟩
  · exact ⟨[], (List.append_nil text).symm, nofun, fun present => absurd rfl present⟩

/-- Only blanks are dropped altogether, and only by a dash. -/
theorem keptText_eq_nil {first : Char} {before after : List Char}
    (dropped : keptText (first :: before) after = []) :
    after.head? = some '-' ∧ ∀ c ∈ first :: before, isBlank c = true := by
  obtain ⟨blanks, trimmed, blank, dashed⟩ := exists_keptText (first :: before) after
  rw [dropped, List.nil_append] at trimmed
  rw [← trimmed] at blank dashed
  exact ⟨dashed nofun, blank⟩

theorem isBlank_of_lineBlankSize (text : List Char) :
    ∀ c ∈ text.take (lineBlankSize text), isBlank c = true := by
  induction text with
  | nil => exact nofun
  | cons first rest ih =>
      rw [lineBlankSize]
      split
      · next newline =>
          rw [newline]
          exact List.forall_mem_singleton.mpr Unicode.isBlank_newline
      · split
        · next blank =>
            rw [List.take_succ_cons]
            exact List.forall_mem_cons.mpr ⟨blank, ih⟩
        · exact nofun

/-- Only the last of the dropped blanks of a line can end it. -/
theorem newline_notMem_of_lineBlankSize (text : List Char) :
    '\n' ∉ (text.take (lineBlankSize text)).dropLast := by
  induction text with
  | nil => exact List.not_mem_nil
  | cons first rest ih =>
      rw [lineBlankSize]
      split
      · exact List.not_mem_nil
      · next other =>
          split
          · rw [List.take_succ_cons]
            cases taken : rest.take (lineBlankSize rest) with
            | nil => exact List.not_mem_nil
            | cons second more =>
                rw [taken] at ih
                rw [List.dropLast_cons_cons]
                exact List.not_mem_cons_of_ne_of_not_mem (Ne.symm other) ih
          · exact List.not_mem_nil

/-! ## Streams of tokens -/

theorem Complete.tail {token : Token} {tokens : List Token} (complete : Complete (token :: tokens))
    (further : token.kind ≠ .eof) : Complete tokens := by
  unfold Complete at complete ⊢
  cases tokens with
  | nil => exact absurd (Option.some.inj complete) further
  | cons second rest => rwa [List.getLast?_cons_cons] at complete

theorem not_complete_resume {dialect : Dialect} {allowed : Nat} {token : Token} {next : Scanner}
    (failed : token.kind = .error) : ¬Complete (resume dialect allowed (token, next)) := by
  simp [resume, failed, Complete, Kind.endsStream]

/-- Tokens and the segments of the text that they come from. -/
structure Divided (dialect : Dialect) (rest : List Char) (place : Place) (before : Option Segment)
    (tokens : List Token) (segments : List Segment) : Prop where
  tokens : ∃ ending, ending.kind = .eof ∧ tokens = segments.flatMap Segment.tokens ++ [ending]
  source : rest = segments.flatMap (Segment.source dialect)
  fitting : Fitting dialect place before segments

/-- A text that begins with a dashed opening begins with a tag. -/
def OpensDashed (dialect : Dialect) (rest : List Char) (segments : List Segment) : Prop :=
  ∀ after, rest = dialect.opening.toList ++ '-' :: after →
    segments.head?.any Segment.opensDashed

theorem Divided.cons {dialect : Dialect} {rest : List Char} {place : Place}
    {before : Option Segment} {tokens : List Token} {segments : List Segment} {segment : Segment}
    (fits : segment.Fits dialect place before segments.head?)
    (divided : Divided dialect rest (place.after (segment.source dialect)) (some segment) tokens
      segments) :
    Divided dialect (segment.source dialect ++ rest) place before (segment.tokens ++ tokens)
      (segment :: segments) where
  tokens := by
    obtain ⟨ending, kind, same⟩ := divided.tokens
    exact ⟨ending, kind, by rw [same, List.flatMap_cons, List.append_assoc]⟩
  source := by rw [List.flatMap_cons, ← divided.source]
  fitting := ⟨fits, divided.fitting⟩

/-- Blanks are a segment, unless there are none. -/
theorem Divided.blanks {dialect : Dialect} {rest content : List Char} {place : Place}
    {tokens : List Token} {segments : List Segment} (blank : ∀ c ∈ content, isBlank c = true)
    (divided : ∀ before, Divided dialect rest (place.after content) before tokens segments) :
    ∃ more, ∀ before : Option Segment,
      (content ≠ [] → segments.head?.any Segment.opensDashed ∨
        before.any Segment.closesDashed ∧ '\n' ∉ content.dropLast) →
      Divided dialect (content ++ rest) place before tokens more := by
  by_cases empty : content = []
  · subst empty
    exact ⟨segments, fun before _ => divided before⟩
  · refine ⟨.blanks content :: segments, fun before asked => ?_⟩
    have fits : (Segment.blanks content).Fits dialect place before segments.head? :=
      ⟨empty, blank, asked empty⟩
    exact .cons fits (divided _)

/-! ## Dialects whose tags can be told from text -/

/-- Opening and closing are not empty, and no closing is part of the mark of a comment. -/
structure Dialect.Plain (dialect : Dialect) : Prop where
  opening : dialect.opening.toList ≠ []
  closing : dialect.closing.toList ≠ []
  unmarked : dialect.closing.toList.head? ≠ some '#'
  symbols : dialect.symbols = .standard

namespace Scanner

variable {dialect : Dialect} {allowed : Nat} {scanner : Scanner}

/-- The tokens up to the closing of a tag, and those behind it. -/
theorem complete_inside (usual : dialect.symbols = .standard) (inTag : scanner.inTag = true)
    (complete : Complete (collect dialect allowed scanner)) :
    ∃ inner closing inside closed next fewer,
      collect dialect allowed scanner = inner ++ closing :: collect dialect fewer next ∧
      Complete (collect dialect fewer next) ∧ fewer < allowed ∧ next.inTag = false ∧
      next.trims = closed ∧ (∀ token ∈ inner, token.kind.isInner) ∧ closing.kind = .tagEnd ∧
      closing.place = scanner.place.after inside ∧
      scanner.Passes (inside ++ (dash closed ++ dialect.closing.toList)) next := by
  induction allowed generalizing scanner with
  | zero => cases complete
  | succ allowed ih =>
      rw [collect_succ, Scanner.next, if_pos inTag] at complete ⊢
      have steps := stepsInside_tagToken usual scanner
      generalize scanner.tagToken dialect = step at steps complete
      cases steps with
      | error failed => exact absurd complete (not_complete_resume failed)
      | @closing token next inside closed kind place left trims passes =>
          have further : token.kind.endsStream = false := by rw [kind]; rfl
          rw [resume_of_further further] at complete ⊢
          have rest := complete.tail (by rw [kind]; exact nofun)
          exact ⟨[], token, inside, closed, next, allowed, rfl, rest, Nat.lt_succ_self _, left,
            trims, List.forall_mem_nil _, kind, place, passes⟩
      | @piece token next passed kind stays passes =>
          have further := endsStream_of_isInner kind
          have unended : token.kind ≠ .eof := by
            rintro same
            rw [same] at kind
            cases kind
          rw [resume_of_further further] at complete ⊢
          obtain ⟨inner, closing, inside, closed, last, fewer, same, rest, less, left, trims, inners,
            ended, place, passes'⟩ := ih (stays.trans inTag) (complete.tail unended)
          refine ⟨token :: inner, closing, passed ++ inside, closed, last, fewer, by rw [same]; rfl,
            rest, Nat.lt_succ_of_lt less, left, trims, List.forall_mem_cons.mpr ⟨kind, inners⟩,
            ended, ?_, ?_⟩
          · rw [place, passes.place, Place.after_append]
          · rw [List.append_assoc]
            exact passes.trans passes'

/-- The tokens of a scanner outside tags come from segments. Where the closing before had a dash,
the first of them may be the blanks that it drops. -/
def Parted (dialect : Dialect) (scanner : Scanner) (tokens : List Token) : Prop :=
  ∃ segments,
    (∀ before : Option Segment, (scanner.trims = true → before.any Segment.closesDashed) →
      Divided dialect scanner.rest scanner.place before tokens segments) ∧
    (scanner.trims = false → OpensDashed dialect scanner.rest segments)

theorem moveBy_of_append {taken more : List Char} (split : scanner.rest = taken ++ more) :
    (scanner.moveBy taken.length).rest = more ∧
      (scanner.moveBy taken.length).place = scanner.place.after taken := by
  unfold moveBy
  rw [split]
  simp

/-- A segment in front of what is divided behind it. -/
theorem divided_of_moveBy {segment : Segment} {segments : List Segment} {before : Option Segment}
    {tokens : List Token} {behind : List Char} {size : Nat}
    (split : scanner.rest = segment.source dialect ++ behind)
    (taken : size = (segment.source dialect).length)
    (fits : segment.Fits dialect scanner.place before segments.head?)
    (divided : Divided dialect (scanner.moveBy size).rest (scanner.moveBy size).place
      (some segment) tokens segments) :
    Divided dialect scanner.rest scanner.place before (segment.tokens ++ tokens)
      (segment :: segments) := by
  subst taken
  obtain ⟨left, place⟩ := moveBy_of_append split
  rw [left, place] at divided
  rw [split]
  exact .cons fits divided

section

variable (plain : dialect.Plain)

include plain

/-- Behind a dashed opening, the opening is found at once. -/
theorem cut?_of_opensDashed {rest after : List Char}
    (opens : rest = dialect.opening.toList ++ '-' :: after) :
    cut? dialect.opening.toList rest = some ([], '-' :: after) := by
  rw [opens]
  exact Text.cut?_append _ _ plain.opening

theorem opensDashed_of_cut? {rest : List Char} {segments : List Segment}
    (other : ∀ after, cut? dialect.opening.toList rest ≠ some ([], '-' :: after)) :
    OpensDashed dialect rest segments :=
  fun after opens => absurd (cut?_of_opensDashed plain opens) (other after)

/-- A comment tag, up to the first closing. -/
theorem exists_comment {after inside behind : List Char} (marked : after.head? = some '#')
    (closed : cut? dialect.closing.toList after = some (inside, behind)) :
    ∃ content, inside = '#' :: content ∧ ∀ ahead rest,
      '#' :: content ++ dialect.closing.toList = ahead ++ dialect.closing.toList ++ rest →
        rest = [] := by
  have split := Text.eq_append_of_cut? closed
  cases inside with
  | nil =>
      obtain ⟨first, more, same⟩ := List.exists_cons_of_ne_nil plain.closing
      rw [split, same] at marked
      exact absurd (by rw [same]; exact marked) plain.unmarked
  | cons first content =>
      obtain rfl : first = '#' := by
        rw [split] at marked
        exact Option.some.inj marked
      refine ⟨content, rfl, fun ahead rest same => ?_⟩
      have occurs : after = ahead ++ dialect.closing.toList ++ (rest ++ behind) := by
        rw [split, same, List.append_assoc]
      have short := Text.length_le_of_cut? closed occurs
      have total := congrArg List.length same
      simp only [List.length_append] at total
      exact List.length_eq_zero_iff.mp (by omega)

end

section

variable (later : ∀ fewer ≤ allowed, ∀ scanner : Scanner, scanner.inTag = false →
    Complete (collect dialect fewer scanner) →
    scanner.Parted dialect (collect dialect fewer scanner))

include later

/-- Text up to the next opening, without the blanks that this one drops. -/
theorem parted_rawText {value blanks more : List Char} {size : Nat}
    (outside : scanner.inTag = false) (untrimmed : scanner.trims = false)
    (split : scanner.rest = value ++ blanks ++ more) (taken : size = (value ++ blanks).length)
    (free : ¬dialect.opening.toList <:+: value) (blank : ∀ c ∈ blanks, isBlank c = true)
    (asked : blanks ≠ [] → ∃ after, more = dialect.opening.toList ++ '-' :: after)
    (complete : Complete (resume dialect allowed (scanner.emit .rawText value size))) :
    ∃ segments, ∀ before, Divided dialect scanner.rest scanner.place before
      (resume dialect allowed (scanner.emit .rawText value size)) segments := by
  subst taken
  let next : Scanner := { scanner.moveBy (value ++ blanks).length with last := some .rawText }
  have left : next.rest = more := (moveBy_of_append split).1
  have place : next.place = (scanner.place.after value).after blanks := by
    rw [← Place.after_append]
    exact (moveBy_of_append split).2
  let token : Token := ⟨.rawText, scanner.place, .ofList value⟩
  have written : (Segment.text token).source dialect = value := String.toList_ofList
  have emitted : resume dialect allowed (scanner.emit .rawText value (value ++ blanks).length) =
      token :: collect dialect allowed next := resume_of_further rfl
  rw [emitted] at complete ⊢
  obtain ⟨segments, divided, opens⟩ :=
    later allowed (Nat.le_refl _) next outside (complete.tail nofun)
  rw [left, place] at divided
  obtain ⟨others, divided'⟩ := Divided.blanks blank fun before =>
    divided before fun shut => nomatch untrimmed.symm.trans shut
  refine ⟨.text token :: others, fun before => ?_⟩
  have fits : (Segment.text token).Fits dialect scanner.place before others.head? :=
    ⟨rfl, rfl, by rwa [String.toList_ofList]⟩
  have rest : scanner.rest = (Segment.text token).source dialect ++ (blanks ++ more) := by
    rw [split, written, List.append_assoc]
  rw [rest]
  refine .cons fits ?_
  rw [written]
  refine divided' _ fun present => .inl ?_
  obtain ⟨after, same⟩ := asked present
  exact opens untrimmed after (left.trans same)

variable (plain : dialect.Plain)

include plain

theorem parted_openTag {after : List Char} (found : scanner.rest = dialect.opening.toList ++ after)
    (complete : Complete (resume dialect allowed
      (scanner.openTag dialect (after.head? = some '-')))) :
    ∃ segments,
      (∀ before, Divided dialect scanner.rest scanner.place before
        (resume dialect allowed (scanner.openTag dialect (after.head? = some '-'))) segments) ∧
      OpensDashed dialect scanner.rest segments := by
  obtain ⟨opened, rest, dashed, split⟩ : ∃ opened rest,
      decide (after.head? = some '-') = opened ∧ after = dash opened ++ rest := by
    cases after with
    | nil => exact ⟨false, [], rfl, rfl⟩
    | cons first rest =>
        by_cases same : first = '-'
        · subst same
          exact ⟨true, rest, rfl, rfl⟩
        · exact ⟨false, first :: rest, by simpa using same, rfl⟩
  rw [split, ← List.append_assoc] at found
  have size : dialect.opening.toList.length + opened.toNat =
      (dialect.opening.toList ++ dash opened).length := by
    cases opened <;> simp [dash]
  have moved := moveBy_of_append found
  rw [dashed] at complete ⊢
  unfold openTag at complete ⊢
  dsimp only [emit] at complete ⊢
  rw [size] at complete ⊢
  generalize scanner.moveBy _ = inner at moved complete ⊢
  obtain ⟨left, place⟩ := moved
  rw [resume_of_further rfl] at complete ⊢
  obtain ⟨inners, closing, inside, closed, last, fewer, same, further, less, outside, trims, kinds,
    ended, there, passes⟩ := complete_inside plain.symbols rfl (complete.tail nofun)
  obtain ⟨segments, divided, _⟩ := later fewer (Nat.le_of_lt less) last outside further
  let parts : Tag :=
    ⟨⟨.tagStart, scanner.place, .ofList dialect.opening.toList⟩, inners, closing⟩
  let segment : Segment := .tag parts opened inside closed
  have source : scanner.rest = segment.source dialect ++ last.rest := by
    have inside := passes.rest
    dsimp only at inside
    rw [found, ← left, inside]
    simp [segment, Segment.source]
  have behind : last.place = scanner.place.after (segment.source dialect) := by
    rw [passes.place, place, ← Place.after_append]
    simp [segment, Segment.source]
  have tokens : ⟨.tagStart, scanner.place, .ofList dialect.opening.toList⟩ ::
      (inners ++ closing :: collect dialect fewer last) =
        segment.tokens ++ collect dialect fewer last := by
    simp [segment, parts, Segment.tokens, Tag.tokens]
  refine ⟨segment :: segments, fun before => ?_, fun rest' opens => ?_⟩
  · rw [same, tokens, source]
    refine .cons ⟨rfl, rfl, kinds, ended, ?_⟩ ?_
    · rw [there, place, ← Place.after_append]
    · rw [← behind]
      exact divided _ fun shut => by rw [trims] at shut; exact shut
  · have whole : dialect.opening.toList ++ after = dialect.opening.toList ++ '-' :: rest' := by
      rw [← opens, found, split, List.append_assoc]
    rw [List.append_cancel_left whole] at dashed
    exact dashed.symm

theorem parted_textToken (scanner : Scanner) (outside : scanner.inTag = false)
    (untrimmed : scanner.trims = false)
    (complete : Complete (resume dialect allowed (scanner.textToken dialect))) :
    ∃ segments,
      (∀ before, Divided dialect scanner.rest scanner.place before
        (resume dialect allowed (scanner.textToken dialect)) segments) ∧
      OpensDashed dialect scanner.rest segments := by
  induction scanner using textToken.induct dialect with
  | case1 scanner finished =>
      rw [textToken_finished finished]
      refine ⟨[], fun before => ⟨⟨⟨.eof, scanner.place, .ofList []⟩, rfl, rfl⟩, finished, trivial⟩, ?_⟩
      refine opensDashed_of_cut? plain fun after found => ?_
      rw [finished] at found
      have := Text.length_of_cut? found
      simp at this
  | case2 scanner unfinished missed =>
      rw [textToken_plain unfinished missed] at complete ⊢
      have split : scanner.rest = scanner.rest ++ [] ++ [] := by simp
      obtain ⟨segments, divided⟩ := parted_rawText later outside untrimmed split (by simp)
        (Text.not_infix_of_cut?_eq_none missed) (List.forall_mem_nil _)
        (fun present => absurd rfl present) complete
      refine ⟨segments, divided, opensDashed_of_cut? plain fun after found => ?_⟩
      cases missed.symm.trans found
  | case3 scanner unfinished after found marked missed =>
      rw [textToken_unclosed unfinished found marked missed] at complete
      exact absurd complete (not_complete_resume rfl)
  | case4 scanner unfinished after found marked inside behind closed size positive _ ih =>
      rw [textToken_comment unfinished found marked closed positive] at complete ⊢
      obtain ⟨segments, divided, opens⟩ := ih outside untrimmed complete
      obtain ⟨content, rfl, fits⟩ := exists_comment plain marked closed
      have split : scanner.rest = (Segment.comment content).source dialect ++ behind := by
        rw [Text.eq_append_of_cut? found, Text.eq_append_of_cut? closed]
        simp [Segment.source]
      have length : size = ((Segment.comment content).source dialect).length := by
        simp [size, Segment.source]
        omega
      refine ⟨.comment content :: segments, fun before => ?_, ?_⟩
      · exact divided_of_moveBy split length fits (divided _)
      · refine opensDashed_of_cut? plain fun after' found' => ?_
        rw [found] at found'
        cases found'
        cases marked
  | case5 scanner unfinished after found marked inside behind closed size empty =>
      rw [textToken_stuck unfinished found marked closed empty] at complete
      exact absurd complete (not_complete_resume rfl)
  | case6 scanner unfinished after found unmarked =>
      rw [textToken_opening unfinished found unmarked] at complete ⊢
      exact parted_openTag later plain (Text.eq_append_of_cut? found) complete
  | case7 scanner unfinished first before after found text dropped _ ih =>
      rw [textToken_dropped unfinished found dropped] at complete ⊢
      obtain ⟨segments, divided, opens⟩ := ih outside untrimmed complete
      obtain ⟨dashed, blank⟩ := keptText_eq_nil dropped
      have split := Text.eq_append_of_cut? found
      rw [List.append_assoc] at split
      refine ⟨.blanks (first :: before) :: segments, fun earlier => ?_, ?_⟩
      · have fits : (Segment.blanks (first :: before)).Fits dialect scanner.place earlier
            segments.head? := by
          obtain ⟨rest, same⟩ := List.head?_eq_some_iff.mp dashed
          have left := (moveBy_of_append split).1
          rw [same] at left
          exact ⟨List.cons_ne_nil first before, blank, .inl (opens rest left)⟩
        exact divided_of_moveBy split rfl fits (divided _)
      · refine opensDashed_of_cut? plain fun after' found' => ?_
        cases found.symm.trans found'
  | case8 scanner unfinished first before after found text kept =>
      rw [textToken_text unfinished found kept] at complete ⊢
      obtain ⟨blanks, trimmed, blank, dashed⟩ := exists_keptText (first :: before) after
      have split := Text.eq_append_of_cut? found
      have part : keptText (first :: before) after <+: first :: before := ⟨blanks, trimmed.symm⟩
      rw [trimmed, List.append_assoc] at split
      obtain ⟨segments, divided⟩ := parted_rawText later outside untrimmed split
        (by rw [← trimmed, List.length_cons]) (Text.not_infix_of_cut? found plain.opening part)
        blank
        (fun present => by
          obtain ⟨rest, same⟩ := List.head?_eq_some_iff.mp (dashed present)
          exact ⟨rest, by rw [same]⟩) complete
      refine ⟨segments, divided, opensDashed_of_cut? plain fun after' found' => ?_⟩
      cases found.symm.trans found'

end

theorem parted_collect (plain : dialect.Plain) (allowed : Nat) (scanner : Scanner)
    (outside : scanner.inTag = false) (complete : Complete (collect dialect allowed scanner)) :
    scanner.Parted dialect (collect dialect allowed scanner) := by
  induction allowed using Nat.strongRecOn generalizing scanner with
  | ind allowed ih =>
      cases allowed with
      | zero => cases complete
      | succ allowed =>
          have later (fewer : Nat) (less : fewer ≤ allowed) (scanner : Scanner) :=
            ih fewer (Nat.lt_succ_of_le less) scanner
          rw [collect_succ, next, if_neg (by rw [outside]; exact nofun)] at complete ⊢
          cases shut : scanner.trims with
          | false =>
              rw [trimLine, shut, if_neg nofun] at complete ⊢
              obtain ⟨segments, divided, opens⟩ :=
                parted_textToken later plain scanner outside shut complete
              exact ⟨segments, fun before _ => divided before, fun _ => opens⟩
          | true =>
              rw [trimLine, shut, if_pos rfl] at complete ⊢
              obtain ⟨segments, divided, -⟩ := parted_textToken later plain
                { scanner.moveBy (lineBlankSize scanner.rest) with trims := false } outside rfl
                complete
              have passes := Passes.moveBy scanner (lineBlankSize scanner.rest)
              obtain ⟨more, divided'⟩ := Divided.blanks (isBlank_of_lineBlankSize scanner.rest)
                fun before => show Divided dialect _ (scanner.place.after _) before _ segments from
                  divided before
              refine ⟨more, fun before closes => ?_, fun unshut => nomatch shut.symm.trans unshut⟩
              have whole := divided' before fun _ =>
                .inr ⟨closes shut, newline_notMem_of_lineBlankSize scanner.rest⟩
              dsimp only at whole
              rwa [← passes.rest] at whole

end Scanner

/-- A source that is scanned to its end is divided into the segments that its tokens come from,
whatever opens and closes its tags. In every source each token has its place, and the places come
in order. -/
theorem source_kept (source opening closing : String) :
    let dialect : Dialect := { Dialect.standard with opening, closing }
    (opening ≠ "" → closing ≠ "" → closing.toList.head? ≠ some '#' →
      Complete (scan dialect source) →
        ∃ segments, Divided dialect source.toList .start none (scan dialect source) segments) ∧
    (∀ token ∈ scan dialect source, token.place.In source.toList) ∧
    (scan dialect source).Pairwise (·.place.offset ≤ ·.place.offset) := by
  intro dialect
  refine ⟨fun opens closes unmarked complete => ?_, placed_scan dialect source⟩
  have plain : dialect.Plain :=
    ⟨mt String.toList_eq_nil_iff.mp opens, mt String.toList_eq_nil_iff.mp closes, unmarked, rfl⟩
  obtain ⟨segments, divided, -⟩ := Scanner.parted_collect plain _ (.start source) rfl complete
  exact ⟨segments, divided none nofun⟩

/-- Dashes on both sides, a comment, a tag without a dash and characters of several bytes, between
marks of one's own. -/
def dashed : String :=
  "é \n<?- x ?>a<?# c ?>  \n<?y -?>  \n b"

theorem dashed_kept :
    ∃ segments, Divided { Dialect.standard with opening := "<?", closing := "?>" } dashed.toList
      .start none (scan { Dialect.standard with opening := "<?", closing := "?>" } dashed)
      segments :=
  (source_kept dashed "<?" "?>").1 nofun nofun (by decide) (by unfold Complete; decide +kernel)

end Token

end Stencil

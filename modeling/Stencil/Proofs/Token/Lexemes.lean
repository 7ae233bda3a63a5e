import Mathlib.Data.List.Basic
import Stencil.Proofs.Token.Numerals

/-!
# Lexemes

Tokens as they are written inside tags. In front of a blank or a comment, each is found with its
kind, its value and its length.
-/

namespace Stencil.Token

open Unicode (isBlank isAlphabetic isWordChar isAlphabetic_of_isLower isWordChar_of_isAlphabetic)

/-- A string with a backslash before each quote and each backslash. -/
def escaped (quote : Char) (contents : List Char) : List Char :=
  contents.flatMap fun c => if c = '\\' ∨ c = quote then ['\\', c] else [c]

/-- An identifier that is no keyword. -/
structure Name where
  first : Char
  rest : List Char
  starts : isAlphabetic first = true ∨ first = '_'
  continues : ∀ c ∈ rest, isWordChar c = true
  unlisted : ∀ symbol ∈ SymbolTable.standard.symbols, symbol.name.toList ≠ first :: rest

/-- A name of small letters. -/
def Name.small (first : Char) (rest : List Char)
    (letters : (first :: rest).all Char.isLower = true)
    (unlisted : ∀ symbol ∈ SymbolTable.standard.symbols, symbol.name.toList ≠ first :: rest) :
    Name where
  first := first
  rest := rest
  starts := .inl (isAlphabetic_of_isLower (List.all_eq_true.mp letters first List.mem_cons_self))
  continues c inside := isWordChar_of_isAlphabetic
    (isAlphabetic_of_isLower (List.all_eq_true.mp letters c (List.mem_cons_of_mem _ inside)))
  unlisted := unlisted

/-- A token that can be written inside a tag. Quotes enclose any contents. -/
inductive Lexeme where
  | name (word : Name)
  | number (negative : Bool) (numeral : Numeral)
  | string (quote : Char) (quotes : quote = '"' ∨ quote = '\'') (contents : List Char)
  | symbol (entry : Symbol) (listed : entry ∈ SymbolTable.standard.symbols)

namespace Lexeme

def kind : Lexeme → Kind
  | name _ => .ident
  | number _ _ => .number
  | string _ _ _ => .string
  | symbol entry _ => entry.kind

def value : Lexeme → List Char
  | name word => word.first :: word.rest
  | number negative numeral => dash negative ++ numeral.written
  | string _ _ contents => contents
  | symbol entry _ => entry.name.toList

def written : Lexeme → List Char
  | string quote _ contents => quote :: (escaped quote contents ++ [quote])
  | name word => word.first :: word.rest
  | number negative numeral => dash negative ++ numeral.written
  | symbol entry _ => entry.name.toList

/-- Only numbers depend on what comes before them. -/
def Follows (last : Option Kind) : Lexeme → Prop
  | number negative numeral => Numeral.Follows last negative numeral
  | _ => True

end Lexeme

variable {after : List Char}

/-! ## Strings -/

theorem readString?_of_ne {quote c : Char} (plain : c ≠ '\\') (rest : List Char) :
    readString? quote (c :: rest) =
      if c = quote then some ([], 1)
      else (readString? quote rest).map fun (value, size) => (c :: value, size + 1) := by
  rw [readString?, if_neg plain]
  intro _ _ same
  exact absurd same plain

theorem readString?_escaped {quote : Char} (quotes : quote = '"' ∨ quote = '\'')
    (contents after : List Char) :
    readString? quote (escaped quote contents ++ quote :: after) =
      some (contents, (escaped quote contents).length + 1) := by
  have plain : quote ≠ '\\' := by
    rintro rfl
    revert quotes
    decide
  induction contents with
  | nil =>
      show readString? quote (quote :: after) = _
      rw [readString?_of_ne plain, if_pos rfl]
      rfl
  | cons c contents ih =>
      rw [escaped, List.flatMap_cons, ← escaped, List.append_assoc]
      split
      · next marked =>
          have itself : unescape c = c := by
            rcases marked with rfl | rfl
            · rfl
            · rcases quotes with rfl | rfl <;> rfl
          show readString? quote ('\\' :: c :: (escaped quote contents ++ quote :: after)) = _
          rw [readString?, ih]
          simp [itself]
      · next unmarked =>
          obtain ⟨unescaped, unquoted⟩ := not_or.mp unmarked
          show readString? quote (c :: (escaped quote contents ++ quote :: after)) = _
          rw [readString?_of_ne unescaped, if_neg unquoted, ih]
          simp

theorem string?_written {quote : Char} (quotes : quote = '"' ∨ quote = '\'')
    (contents after : List Char) :
    string? (quote :: (escaped quote contents ++ [quote]) ++ after) =
      some (.ok ⟨.string, contents, (quote :: (escaped quote contents ++ [quote])).length⟩) := by
  rw [List.cons_append, List.append_assoc, string?, if_pos quotes]
  rw [List.singleton_append, readString?_escaped quotes]
  simp

theorem string?_eq_none {first : Char} {rest : List Char} (undouble : first ≠ '"')
    (unsingle : first ≠ '\'') : string? (first :: rest) = none :=
  if_neg (not_or.mpr ⟨undouble, unsingle⟩)

/-! ## Symbols -/

theorem closing_standard : Dialect.standard.closing.toList = ['%', ']'] :=
  rfl

/-- Without blanks and comments. -/
def isDense (chars : List Char) : Bool :=
  chars.all fun c => !isBlank c && c != '#'

theorem forall_of_isDense {chars : List Char} (dense : isDense chars = true) :
    ∀ c ∈ chars, isBlank c = false ∧ c ≠ '#' := by
  simpa [isDense] using dense

/-- How the symbols of the table are spelled, checked for the whole table at once. -/
theorem spelled_of_standard : ∀ symbol ∈ SymbolTable.standard.symbols,
    isDense symbol.name.toList = true ∧
    (if SymbolTable.isWordLike symbol.name then symbol.name.toList.all isWordChar = true
      else symbol.name.toList.head?.any isWordChar = false) ∧
    symbol.name.toList.head?.any (fun c => !c.isDigit && c != '"' && c != '\'') = true ∧
    symbol.name.toList.tail.head?.any Char.isDigit = false ∧
    ∀ dashed : Bool, ¬(dash dashed ++ ['%', ']']) <+: symbol.name.toList := by
  decide

theorem dense_of_standard (symbol : Symbol) (listed : symbol ∈ SymbolTable.standard.symbols) :
    ∀ c ∈ symbol.name.toList, isBlank c = false ∧ c ≠ '#' :=
  forall_of_isDense (spelled_of_standard symbol listed).1

/-- Symbols that end like words are words, and no other begins like one. -/
theorem words_of_standard (symbol : Symbol) (listed : symbol ∈ SymbolTable.standard.symbols) :
    if SymbolTable.isWordLike symbol.name then ∀ c ∈ symbol.name.toList, isWordChar c = true
    else symbol.name.toList.head?.any isWordChar = false := by
  have spelled := (spelled_of_standard symbol listed).2.1
  rwa [List.all_eq_true] at spelled

/-- No symbol begins a number or a string. -/
theorem unquoted_of_standard {symbol : Symbol} (listed : symbol ∈ SymbolTable.standard.symbols) :
    ∃ first rest, symbol.name.toList = first :: rest ∧ first.isDigit = false ∧ first ≠ '"' ∧
      first ≠ '\'' ∧ rest.head?.any Char.isDigit = false := by
  obtain ⟨-, -, head, second, -⟩ := spelled_of_standard symbol listed
  cases name : symbol.name.toList with
  | nil =>
      rw [name] at head
      cases head
  | cons first rest =>
      rw [name] at head second
      have plain : (!first.isDigit && first != '"' && first != '\'') = true := head
      simp only [Bool.and_eq_true, Bool.not_eq_true', bne_iff_ne] at plain
      exact ⟨first, rest, rfl, plain.1.1, plain.1.2, plain.2, second⟩

/-- No symbol begins with a closing. -/
theorem unclosed_of_standard (symbol : Symbol) (listed : symbol ∈ SymbolTable.standard.symbols)
    (dashed : Bool) : ¬(dash dashed ++ Dialect.standard.closing.toList) <+: symbol.name.toList :=
  (spelled_of_standard symbol listed).2.2.2.2 dashed

/-- No symbol begins with a later one, so that the longer spellings are tried first. -/
theorem longest_of_standard : SymbolTable.standard.symbols.Pairwise fun first second =>
    ¬first.name.toList <+: second.name.toList := by
  decide

theorem matches?_isSome {symbol : Symbol} {text : List Char} :
    (SymbolTable.matches? symbol text).isSome = true ↔ ∃ rest, text = symbol.name.toList ++ rest ∧
      (SymbolTable.isWordLike symbol.name = true → rest.head?.any isWordChar = false) := by
  constructor
  · intro matched
    unfold SymbolTable.matches? at matched
    split at matched
    · cases matched
    · next found => exact ⟨[], (List.append_eq_of_isPrefixOf?_eq_some found).symm, fun _ => rfl⟩
    · next c rest found =>
        split at matched
        · cases matched
        · next ends =>
            refine ⟨c :: rest, (List.append_eq_of_isPrefixOf?_eq_some found).symm, fun word => ?_⟩
            simpa [word] using ends
  · rintro ⟨rest, rfl, ends⟩
    rw [SymbolTable.matches?, List.isPrefixOf?_eq_some_iff_append_eq.mpr rfl]
    cases rest with
    | nil => rfl
    | cons c rest =>
        have unmerged : ¬(SymbolTable.isWordLike symbol.name && isWordChar c) = true := by
          intro merged
          obtain ⟨word, continues⟩ := Bool.and_eq_true_iff.mp merged
          have stops : isWordChar c = false := ends word
          rw [continues] at stops
          cases stops
        dsimp only
        rw [if_neg unmerged]
        rfl

theorem symbol?_written {symbol : Symbol} (listed : symbol ∈ SymbolTable.standard.symbols)
    (separated : Separated after) :
    symbol? .standard (symbol.name.toList ++ after) =
      some ⟨symbol.kind, symbol.name.toList, symbol.name.toList.length⟩ := by
  have found : SymbolTable.standard.matchAt (symbol.name.toList ++ after) = some symbol := by
    obtain ⟨longer, others, table⟩ := List.append_of_mem listed
    refine List.find?_eq_some_iff_append.mpr
      ⟨matches?_isSome.mpr ⟨after, rfl, fun _ => separated.isWordChar⟩, longer, others, table, ?_⟩
    intro other before
    have inside : other ∈ SymbolTable.standard.symbols := by
      rw [table]
      exact List.mem_append_left _ before
    have longest := longest_of_standard
    rw [table] at longest
    have missed := (List.pairwise_append.mp longest).2.2 other before symbol List.mem_cons_self
    rw [Bool.not_eq_true']
    refine Bool.eq_false_iff.mpr fun matched => ?_
    obtain ⟨rest, same, -⟩ := matches?_isSome.mp matched
    exact missed (separated.prefix_of_append (dense_of_standard other inside) ⟨rest, same.symm⟩)
  rw [symbol?, found]
  rfl

/-! ## Names -/

/-- Characters with which other tokens and comments begin. -/
def marks : List Char :=
  ['#', '%', '+', '-', '.', '"', '\'']

theorem unnamed_of_marks : ∀ c ∈ marks, isAlphabetic c = false ∧ c ≠ '_' := by
  have unnamed : marks.all (fun c => !isAlphabetic c && c != '_') = true := by
    decide
  simpa using unnamed

section

variable {first : Char} {rest : List Char} (starts : isAlphabetic first = true ∨ first = '_')

include starts

theorem isWordChar_of_starts : isWordChar first = true := by
  rcases starts with letter | rfl
  · exact Unicode.isWordChar_of_isAlphabetic letter
  · exact Bool.or_true _

theorem ne_of_starts {c : Char} (mark : c ∈ marks) : first ≠ c := by
  obtain ⟨letterless, other⟩ := unnamed_of_marks c mark
  rintro rfl
  rcases starts with letter | same
  · rw [letterless] at letter
    cases letter
  · exact other same

variable (continues : ∀ c ∈ rest, isWordChar c = true)

include continues

theorem isWordChar_of_mem : ∀ c ∈ first :: rest, isWordChar c = true := by
  intro c inside
  rcases List.mem_cons.mp inside with rfl | later
  · exact isWordChar_of_starts starts
  · exact continues c later

variable (separated : Separated after)

include separated

theorem symbol?_eq_none
    (unlisted : ∀ symbol ∈ SymbolTable.standard.symbols, symbol.name.toList ≠ first :: rest) :
    symbol? .standard (first :: rest ++ after) = none := by
  have missed : SymbolTable.standard.matchAt (first :: rest ++ after) = none := by
    refine List.find?_eq_none.mpr fun symbol listed matched => ?_
    obtain ⟨behind, same, ends⟩ := matches?_isSome.mp matched
    obtain ⟨more, split⟩ :=
      separated.prefix_of_append (dense_of_standard symbol listed) ⟨behind, same.symm⟩
    have words := words_of_standard symbol listed
    split at words
    · next word =>
        cases more with
        | nil => exact unlisted symbol listed (by rw [← split, List.append_nil])
        | cons c more =>
            have inside : c ∈ first :: rest := by
              rw [← split]
              simp
            have member := isWordChar_of_mem starts continues c inside
            rw [← split, List.append_assoc] at same
            have stops := ends word
            rw [← List.append_cancel_left same] at stops
            rw [show (c :: more ++ after).head?.any isWordChar = isWordChar c from rfl, member] at stops
            cases stops
    · obtain ⟨c, rest, name, -⟩ := unquoted_of_standard listed
      rw [name] at words same
      obtain ⟨rfl, -⟩ := List.cons.inj same
      have outside : isWordChar first = false := words
      rw [isWordChar_of_starts starts] at outside
      cases outside
  rw [symbol?, missed]
  rfl

theorem nameOrError_written (closing : List Char) :
    nameOrError closing (first :: rest ++ after) =
      .ok ⟨.ident, first :: rest, (first :: rest).length⟩ := by
  have members := isWordChar_of_mem starts continues
  have name := takeWhile_append_of_stops members separated.isWordChar
  have tail := dropWhile_append_of_stops members separated.isWordChar
  have ends : endsName closing after = true := by
    obtain ⟨c, behind, rfl, blank | rfl⟩ := separated
    · rw [endsName, blank]
      rfl
    · rfl
  rw [List.cons_append] at name tail ⊢
  rw [nameOrError, if_pos (by simpa using starts)]
  simp only [name, tail, ends, if_true]

end

/-! ## Tokens -/

namespace Lexeme

variable (lexeme : Lexeme)

/-- The text of a token does not begin with a blank or a comment. -/
theorem exists_cons : ∃ first rest, lexeme.written = first :: rest ∧ isBlank first = false ∧
    first ≠ '#' := by
  cases lexeme with
  | name word =>
      obtain ⟨first, rest, starts, continues, unlisted⟩ := word
      refine ⟨first, rest, rfl, ?_, ne_of_starts starts (by decide)⟩
      refine Bool.eq_false_iff.mpr fun blank => ?_
      have outside := Unicode.isWordChar_of_isBlank blank
      rw [isWordChar_of_starts starts] at outside
      cases outside
  | number negative numeral =>
      cases negative with
      | true => exact ⟨'-', numeral.written, rfl, by decide⟩
      | false =>
          obtain ⟨first, rest, same, digit⟩ := numeral.exists_cons
          refine ⟨first, rest, same, ?_, ?_⟩
          · refine Bool.eq_false_iff.mpr fun blank => ?_
            rw [Unicode.isDigit_of_isBlank blank] at digit
            cases digit
          · rintro rfl
            cases digit
  | string quote quotes contents =>
      refine ⟨quote, _, rfl, ?_⟩
      rcases quotes with rfl | rfl <;> decide
  | symbol symbol listed =>
      obtain ⟨first, rest, name, -⟩ := unquoted_of_standard listed
      exact ⟨first, rest, name, dense_of_standard symbol listed first (by rw [name]; simp)⟩

/-- Nor with a closing. -/
theorem not_closing (dashed : Bool) :
    ¬(dash dashed ++ Dialect.standard.closing.toList) <+: lexeme.written := by
  rintro ⟨behind, same⟩
  have head : ∀ first rest, lexeme.written = first :: rest → first = '%' ∨ first = '-' := by
    intro first rest written
    rw [closing_standard, written] at same
    cases dashed with
    | false => exact .inl (List.cons.inj same).1.symm
    | true => exact .inr (List.cons.inj same).1.symm
  cases lexeme with
  | name word =>
      obtain ⟨first, rest, starts, continues, unlisted⟩ := word
      rcases head first rest rfl with marked | marked
      · exact ne_of_starts starts (by decide) marked
      · exact ne_of_starts starts (by decide) marked
  | number negative numeral =>
      obtain ⟨first, rest, digits, digit⟩ := numeral.exists_cons
      cases negative with
      | false =>
          rcases head first rest digits with rfl | rfl <;> cases digit
      | true =>
          rw [written, closing_standard, digits] at same
          cases dashed with
          | false => cases (List.cons.inj same).1
          | true =>
              obtain ⟨rfl, -⟩ := List.cons.inj (List.cons.inj same).2
              cases digit
  | string quote quotes contents =>
      have marked := head quote _ rfl
      rcases quotes with rfl | rfl <;> revert marked <;> decide
  | symbol symbol listed => exact unclosed_of_standard symbol listed dashed ⟨behind, same⟩

theorem pieceAt_written {last : Option Kind} (separated : Separated after)
    (follows : lexeme.Follows last) :
    pieceAt .standard last (lexeme.written ++ after) =
      .ok ⟨lexeme.kind, lexeme.value, lexeme.written.length⟩ := by
  cases lexeme with
  | name word =>
      obtain ⟨first, rest, starts, continues, unlisted⟩ := word
      have number : number? last (first :: rest ++ after) = none := by
        refine number?_eq_none ?_ ?_
        · rcases starts with letter | rfl
          · exact Unicode.isDigit_of_isAlphabetic letter
          · rfl
        · rintro (rfl | rfl)
          · exact absurd rfl (ne_of_starts starts (by decide))
          · exact absurd rfl (ne_of_starts starts (by decide))
      have string : string? (first :: rest ++ after) = none :=
        string?_eq_none (ne_of_starts starts (by decide))
          (ne_of_starts starts (by decide))
      have symbol := symbol?_eq_none starts continues separated unlisted
      show pieceAt .standard last (first :: rest ++ after) = _
      simp only [pieceAt, number, string]
      rw [show Dialect.standard.symbols = .standard from rfl, symbol]
      exact nameOrError_written starts continues separated _
  | number negative numeral =>
      show pieceAt .standard last (dash negative ++ numeral.written ++ after) = _
      rw [pieceAt, numeral.number?_written negative separated follows]
      rfl
  | string quote quotes contents =>
      have number : number? last (quote :: (escaped quote contents ++ [quote]) ++ after) = none := by
        refine number?_eq_none ?_ ?_
        · rcases quotes with rfl | rfl <;> rfl
        · rcases quotes with rfl | rfl <;> rintro (⟨⟨⟩⟩ | ⟨⟨⟩⟩)
      show pieceAt .standard last (quote :: (escaped quote contents ++ [quote]) ++ after) = _
      rw [pieceAt, number, string?_written quotes]
      rfl
  | symbol symbol listed =>
      obtain ⟨first, rest, name, undigit, undouble, unsingle, unsigned⟩ :=
        unquoted_of_standard listed
      have behind : (rest ++ after).head?.any Char.isDigit = false := by
        cases rest with
        | nil => exact separated.isDigit
        | cons c rest => exact unsigned
      have number : number? last (first :: (rest ++ after)) = none :=
        number?_eq_none undigit fun _ => behind
      have string : string? (first :: (rest ++ after)) = none := string?_eq_none undouble unsingle
      have found := symbol?_written listed separated
      show pieceAt .standard last (symbol.name.toList ++ after) = _
      rw [name, List.cons_append] at found ⊢
      simp only [pieceAt, number, string]
      rw [show Dialect.standard.symbols = .standard from rfl, found]
      simp only [kind, value, written, name]

end Lexeme

end Stencil.Token

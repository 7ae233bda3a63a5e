import Stencil.Proofs.Decimal.Counts
import Stencil.Proofs.Token.Lexemes
import Stencil.Proofs.Token.Segments

/-!
# Tables of symbols

A table is built by additions, each with a priority of its own or with that of its spelling. The
symbols stand by descending priority, those of equal priority in the order of their addition, and
the first that fits a text is matched. In a table where every spelling has its own priority that is
the longest one, and what is read as a name with the words of templates is none of them.
-/

namespace Stencil.Token

open Unicode (isWordChar)

/-! ## Stable orders -/

section

variable {α : Type} {rank : α → Int}

/-- The elements of one rank, in their order. -/
def ofRank (rank : α → Int) (r : Int) (elements : List α) : List α :=
  elements.filter fun element => rank element = r

/-- A list put into descending order of rank, in which elements of one rank stand as before. -/
structure StablyOrdered (rank : α → Int) (listed ordered : List α) : Prop where
  descending : ordered.Pairwise fun first second => rank second ≤ rank first
  stable : ∀ r, ofRank rank r ordered = ofRank rank r listed

theorem ofRank_cons_self (element : α) (elements : List α) :
    ofRank rank (rank element) (element :: elements) =
      element :: ofRank rank (rank element) elements :=
  List.filter_cons_of_pos (decide_eq_true rfl)

theorem ofRank_cons_of_ne {element : α} {r : Int} (other : rank element ≠ r)
    (elements : List α) : ofRank rank r (element :: elements) = ofRank rank r elements :=
  List.filter_cons_of_neg (by simpa using other)

theorem ofRank_append (r : Int) (left right : List α) :
    ofRank rank r (left ++ right) = ofRank rank r left ++ ofRank rank r right :=
  List.filter_append ..

theorem mem_of_ofRank_eq {element : α} {left right : List α}
    (same : ∀ r, ofRank rank r left = ofRank rank r right) (inside : element ∈ left) :
    element ∈ right := by
  have found : element ∈ ofRank rank (rank element) left :=
    List.mem_filter.mpr ⟨inside, decide_eq_true rfl⟩
  rw [same] at found
  exact (List.mem_filter.mp found).1

theorem rank_le_head {element first : α} {rest : List α}
    (descending : (first :: rest).Pairwise fun first second => rank second ≤ rank first)
    (inside : element ∈ first :: rest) : rank element ≤ rank first := by
  rcases List.mem_cons.mp inside with rfl | later
  · exact le_rfl
  · exact List.rel_of_pairwise_cons descending later

/-- There is only one stable order. -/
theorem eq_of_descending {left right : List α}
    (descending : left.Pairwise fun first second => rank second ≤ rank first)
    (descending' : right.Pairwise fun first second => rank second ≤ rank first)
    (same : ∀ r, ofRank rank r left = ofRank rank r right) : left = right := by
  induction left generalizing right with
  | nil =>
      cases right with
      | nil => rfl
      | cons first rest =>
          exact absurd (mem_of_ofRank_eq (fun r => (same r).symm) List.mem_cons_self)
            List.not_mem_nil
  | cons first rest ih =>
      cases right with
      | nil => exact absurd (mem_of_ofRank_eq same List.mem_cons_self) List.not_mem_nil
      | cons first' rest' =>
          have level : rank first = rank first' :=
            le_antisymm (rank_le_head descending' (mem_of_ofRank_eq same List.mem_cons_self))
              (rank_le_head descending
                (mem_of_ofRank_eq (fun r => (same r).symm) List.mem_cons_self))
          have heads := same (rank first)
          rw [ofRank_cons_self, level, ofRank_cons_self] at heads
          obtain ⟨rfl, tails⟩ := List.cons.inj heads
          refine congrArg (first :: ·) (ih descending.of_cons descending'.of_cons fun r => ?_)
          by_cases here : rank first = r
          · rw [← here]
            exact tails
          · have others := same r
            rwa [ofRank_cons_of_ne here, ofRank_cons_of_ne here] at others

theorem StablyOrdered.unique {listed left right : List α} (first : StablyOrdered rank listed left)
    (second : StablyOrdered rank listed right) : left = right :=
  eq_of_descending first.descending second.descending fun r =>
    (first.stable r).trans (second.stable r).symm

theorem stablyOrdered_mergeSort (listed : List α) :
    StablyOrdered rank listed (listed.mergeSort fun first second => rank second ≤ rank first) := by
  have transitive : ∀ first second third : α, decide (rank second ≤ rank first) = true →
      decide (rank third ≤ rank second) = true → decide (rank third ≤ rank first) = true := by
    intro first second third above above'
    simp only [decide_eq_true_eq] at above above' ⊢
    exact above'.trans above
  have total : ∀ first second : α,
      (decide (rank second ≤ rank first) || decide (rank first ≤ rank second)) = true := by
    intro first second
    simpa using le_total (rank second) (rank first)
  refine ⟨?_, fun r => ?_⟩
  · exact (List.pairwise_mergeSort transitive total listed).imp fun ordered => by
      simpa using ordered
  · -- The elements of one rank are in order already, so the sort keeps them as a sublist.
    have level : (ofRank rank r listed).Pairwise fun first second =>
        decide (rank second ≤ rank first) = true := by
      refine List.pairwise_of_forall_mem_list fun first inside second inside' => ?_
      have here := (List.mem_filter.mp inside).2
      have here' := (List.mem_filter.mp inside').2
      simp only [decide_eq_true_eq] at here here' ⊢
      rw [here, here']
    have kept := (List.sublist_mergeSort transitive total level List.filter_sublist).filter
      fun element => decide (rank element = r)
    rw [ofRank, List.filter_filter] at kept
    simp only [Bool.and_self] at kept
    exact (kept.eq_of_length (((List.mergeSort_perm listed _).filter _).length_eq).symm).symm

end

/-! ## Additions -/

def Symbol.rank (symbol : Symbol) : Int :=
  totalRank symbol.priority

/-- What is added to a table: a spelling with its own priority, or with another one. -/
inductive Addition where
  | plain (name : String) (kind : Kind)
  | ranked (name : String) (kind : Kind) (priority : UInt64)

namespace Addition

def apply (table : SymbolTable) : Addition → SymbolTable
  | plain name kind => table.add name kind
  | ranked name kind priority => table.addWithPriority name kind priority

def symbol : Addition → Symbol
  | plain name kind => ⟨name, kind, (Decimal.ofInt name.utf8ByteSize).toBits⟩
  | ranked name kind priority => ⟨name, kind, priority⟩

def IsPlain : Addition → Prop
  | plain _ _ => True
  | ranked _ _ _ => False

end Addition

namespace SymbolTable

/-- The table that additions make, one after another. -/
def built (additions : List Addition) : SymbolTable :=
  additions.foldl Addition.apply empty

theorem symbols_apply (table : SymbolTable) (addition : Addition) :
    (addition.apply table).symbols = place addition.symbol table.symbols := by
  cases addition <;> rfl

theorem mem_place {symbol other : Symbol} {symbols : List Symbol} :
    other ∈ place symbol symbols ↔ other = symbol ∨ other ∈ symbols := by
  induction symbols with
  | nil => exact List.mem_cons
  | cons first rest ih =>
      rw [place]
      split
      · exact List.mem_cons
      · rw [List.mem_cons, ih, List.mem_cons]
        exact or_left_comm

theorem descending_place {symbol : Symbol} {symbols : List Symbol}
    (descending : symbols.Pairwise fun first second => second.rank ≤ first.rank) :
    (place symbol symbols).Pairwise fun first second => second.rank ≤ first.rank := by
  induction symbols with
  | nil => exact List.pairwise_singleton _ _
  | cons other rest ih =>
      rw [place]
      split
      · next less =>
          refine List.pairwise_cons.mpr ⟨fun later inside => ?_, descending⟩
          exact (rank_le_head descending inside).trans (le_of_lt less)
      · next notLess =>
          refine List.pairwise_cons.mpr ⟨fun later inside => ?_, ih descending.of_cons⟩
          rcases mem_place.mp inside with rfl | inside
          · exact not_lt.mp notLess
          · exact List.rel_of_pairwise_cons descending inside

theorem ofRank_place {symbol : Symbol} {symbols : List Symbol}
    (descending : symbols.Pairwise fun first second => second.rank ≤ first.rank) (r : Int) :
    ofRank Symbol.rank r (place symbol symbols) = ofRank Symbol.rank r (symbols ++ [symbol]) := by
  induction symbols with
  | nil => rfl
  | cons other rest ih =>
      rw [place]
      split
      · next less =>
          by_cases here : symbol.rank = r
          · -- No symbol of the same priority is left behind the new one.
            have none : ofRank Symbol.rank r (other :: rest) = [] := by
              refine List.filter_eq_nil_iff.mpr fun later inside level => ?_
              have below := rank_le_head descending inside
              have lower : other.rank < symbol.rank := less
              have level : later.rank = r := of_decide_eq_true level
              omega
            rw [← here] at none ⊢
            rw [ofRank_append, none, ofRank_cons_self, none, ofRank_cons_self]
            rfl
          · rw [ofRank_append, ofRank_cons_of_ne here, ofRank_cons_of_ne here]
            exact (List.append_nil _).symm
      · have later := ih descending.of_cons
        rw [List.cons_append]
        by_cases here : other.rank = r
        · rw [← here] at later ⊢
          rw [ofRank_cons_self, ofRank_cons_self, later]
        · rw [ofRank_cons_of_ne here, ofRank_cons_of_ne here, later]

/-- An addition keeps the order, with the new symbol as the last one. -/
theorem stablyOrdered_apply {listed : List Symbol} {table : SymbolTable}
    (ordered : StablyOrdered Symbol.rank listed table.symbols) (addition : Addition) :
    StablyOrdered Symbol.rank (listed ++ [addition.symbol]) (addition.apply table).symbols := by
  rw [symbols_apply]
  refine ⟨descending_place ordered.descending, fun r => ?_⟩
  rw [ofRank_place ordered.descending, ofRank_append, ofRank_append, ordered.stable]

theorem stablyOrdered_foldl {listed : List Symbol} {table : SymbolTable}
    (ordered : StablyOrdered Symbol.rank listed table.symbols) (additions : List Addition) :
    StablyOrdered Symbol.rank (listed ++ additions.map Addition.symbol)
      (additions.foldl Addition.apply table).symbols := by
  induction additions generalizing listed table with
  | nil => rwa [List.map_nil, List.append_nil]
  | cons addition additions ih =>
      have further := ih (stablyOrdered_apply ordered addition)
      rwa [List.append_assoc] at further

theorem stablyOrdered_built (additions : List Addition) :
    StablyOrdered Symbol.rank (additions.map Addition.symbol) (built additions).symbols :=
  stablyOrdered_foldl ⟨.nil, fun _ => rfl⟩ additions

theorem mem_built {additions : List Addition} {symbol : Symbol}
    (listed : symbol ∈ (built additions).symbols) :
    ∃ addition ∈ additions, addition.symbol = symbol :=
  List.mem_map.mp (mem_of_ofRank_eq (stablyOrdered_built additions).stable listed)

end SymbolTable

/-! ## Matching -/

/-- A text begins with the spelling of a symbol. One that ends like a word is followed by the end
of a word. -/
def Symbol.Fits (symbol : Symbol) (text : List Char) : Prop :=
  ∃ after, text = symbol.name.toList ++ after ∧
    ∀ last next, symbol.name.toList.getLast? = some last → after.head? = some next →
      last.isAlphanum = true ∨ last = '_' → isWordChar next = false

theorem isWordLike_iff {name : String} : SymbolTable.isWordLike name = true ↔
    ∃ last, name.toList.getLast? = some last ∧ (last.isAlphanum = true ∨ last = '_') := by
  unfold SymbolTable.isWordLike
  cases name.toList.getLast? <;> simp

theorem matches?_isSome_iff {symbol : Symbol} {text : List Char} :
    (SymbolTable.matches? symbol text).isSome = true ↔ symbol.Fits text := by
  rw [matches?_isSome]
  refine exists_congr fun after => and_congr_right fun _ => ?_
  rw [isWordLike_iff]
  cases after with
  | nil => simp
  | cons next rest => simp

section

variable {table : SymbolTable} {text : List Char}

/-- The symbol that is matched is the first that fits. -/
theorem matchAt_eq_some {symbol : Symbol} :
    table.matchAt text = some symbol ↔
      ∃ before after, table.symbols = before ++ symbol :: after ∧ symbol.Fits text ∧
        ∀ earlier ∈ before, ¬earlier.Fits text := by
  have fits : ∀ symbol : Symbol,
      (!(SymbolTable.matches? symbol text).isSome) = true ↔ ¬symbol.Fits text := by
    intro symbol
    rw [Bool.not_eq_true', ← matches?_isSome_iff, Bool.not_eq_true]
  rw [SymbolTable.matchAt, List.find?_eq_some_iff_append, matches?_isSome_iff]
  constructor
  · rintro ⟨fit, before, after, split, missed⟩
    exact ⟨before, after, split, fit, fun earlier inside => (fits earlier).mp (missed earlier inside)⟩
  · rintro ⟨before, after, split, fit, missed⟩
    exact ⟨fit, before, after, split, fun earlier inside => (fits earlier).mpr (missed earlier inside)⟩

theorem matchAt_eq_none :
    table.matchAt text = none ↔ ∀ symbol ∈ table.symbols, ¬symbol.Fits text := by
  rw [SymbolTable.matchAt, List.find?_eq_none]
  exact forall₂_congr fun symbol _ => not_congr matches?_isSome_iff

/-- Of the symbols that fit, none is ranked above the one that is matched. -/
theorem rank_le_of_matchAt {symbol other : Symbol}
    (descending : table.symbols.Pairwise fun first second => second.rank ≤ first.rank)
    (matched : table.matchAt text = some symbol) (listed : other ∈ table.symbols)
    (fits : other.Fits text) : other.rank ≤ symbol.rank := by
  obtain ⟨before, after, split, -, missed⟩ := matchAt_eq_some.mp matched
  rw [split] at descending listed
  rcases List.mem_append.mp listed with earlier | later
  · exact absurd fits (missed other earlier)
  · exact rank_le_head (List.pairwise_append.mp descending).2.1 later

end

/-! ## The longest spelling -/

theorem totalRank_ofInt (n : Nat) :
    totalRank (Decimal.ofInt n).toBits = ((Decimal.ofInt n).toBits.toNat : Int) :=
  if_pos (UInt64.lt_iff_toNat_lt.mpr (Decimal.toBits_ofInt_lt n))

/-- A longer spelling has a higher priority than one whose bytes a double can count. -/
theorem Addition.rank_lt_rank {addition other : Addition} (plain : addition.IsPlain)
    (plain' : other.IsPlain) (counted : addition.symbol.name.utf8ByteSize < 2 ^ 53)
    (longer : addition.symbol.name.utf8ByteSize < other.symbol.name.utf8ByteSize) :
    addition.symbol.rank < other.symbol.rank := by
  cases addition with
  | ranked => exact plain.elim
  | plain name kind =>
      cases other with
      | ranked => exact plain'.elim
      | plain name' kind' =>
          show totalRank (Decimal.ofInt name.utf8ByteSize).toBits <
            totalRank (Decimal.ofInt name'.utf8ByteSize).toBits
          rw [totalRank_ofInt, totalRank_ofInt]
          exact Int.ofNat_lt.mpr (Decimal.toBits_ofInt_lt_toBits_ofInt counted longer)

theorem longest_of_matchAt {additions : List Addition} {text : List Char} {symbol other : Symbol}
    (plain : ∀ addition ∈ additions, addition.IsPlain)
    (matched : (SymbolTable.built additions).matchAt text = some symbol)
    (counted : symbol.name.utf8ByteSize < 2 ^ 53)
    (listed : other ∈ (SymbolTable.built additions).symbols) (fits : other.Fits text) :
    other.name.utf8ByteSize ≤ symbol.name.utf8ByteSize := by
  have ordered := (SymbolTable.stablyOrdered_built additions).descending
  have below := rank_le_of_matchAt ordered matched listed fits
  obtain ⟨addition, inside, rfl⟩ := SymbolTable.mem_built (SymbolTable.mem_of_matchAt matched)
  obtain ⟨addition', inside', rfl⟩ := SymbolTable.mem_built listed
  by_contra longer
  exact absurd below (not_le.mpr (Addition.rank_lt_rank (plain _ inside) (plain _ inside') counted
    (not_le.mp longer)))

/-! ## Names -/

/-- No symbol of a table fits a text that begins with a name, or the symbol would be spelled
otherwise. -/
theorem name_ne_of_symbol?_eq_none {table : SymbolTable} {closing text : List Char} {piece : Piece}
    (unmatched : symbol? table text = none) (found : nameOrError closing text = .ok piece) :
    ∀ symbol ∈ table.symbols, piece.value ≠ symbol.name.toList := by
  intro symbol listed same
  have unfit := matchAt_eq_none.mp (Option.map_eq_none_iff.mp unmatched) symbol listed
  unfold nameOrError at found
  split at found
  · cases found
  · next first rest =>
      split at found
      · dsimp only at found
        split at found
        · cases found
          have stops := List.head?_dropWhile_not isWordChar (first :: rest)
          refine unfit ⟨(first :: rest).dropWhile isWordChar, ?_, ?_⟩
          · rw [← same]
            exact List.takeWhile_append_dropWhile.symm
          · intro last next _ follows _
            rwa [follows] at stops
        · cases found
      · cases found

theorem kind_ne_ident_of_standard :
    ∀ symbol ∈ SymbolTable.standard.symbols, symbol.kind ≠ .ident := by
  decide +kernel

section

variable {dialect : Dialect}

/-- A token that is no name, or whose spelling no symbol of the usual table has. -/
def Unlisted (token : Token) : Prop :=
  token.kind = .ident → ∀ symbol ∈ SymbolTable.standard.symbols, token.value ≠ symbol.name

theorem unlisted_of_kind {token : Token} (other : token.kind ≠ .ident) : Unlisted token :=
  fun named => absurd named other

theorem name_ne_of_pieceAt (usual : dialect.symbols = .standard) {last : Option Kind}
    {text : List Char} {piece : Piece} (found : pieceAt dialect last text = .ok piece)
    (named : piece.kind = .ident) :
    ∀ symbol ∈ SymbolTable.standard.symbols, piece.value ≠ symbol.name.toList := by
  unfold pieceAt at found
  split at found
  · next result number =>
      cases (kind_number? (number.trans (congrArg some found))).symm.trans named
  · split at found
    · next result string =>
        cases (kind_string? (string.trans (congrArg some found))).symm.trans named
    · split at found
      · next piece symbol =>
          cases found
          obtain ⟨entry, matched, rfl⟩ := Option.map_eq_some_iff.mp symbol
          rw [usual] at matched
          exact absurd named (kind_ne_ident_of_standard entry (SymbolTable.mem_of_matchAt matched))
      · next unmatched =>
          rw [usual] at unmatched
          exact name_ne_of_symbol?_eq_none unmatched found

namespace Scanner

theorem unlisted_tagToken (usual : dialect.symbols = .standard) (scanner : Scanner) :
    Unlisted (scanner.tagToken dialect).1 := by
  by_cases finished : (scanner.skipBlanks dialect).rest = []
  · rw [tagToken_unclosed finished]
    exact unlisted_of_kind Kind.noConfusion
  · cases closes : closing? dialect.closing.toList (scanner.skipBlanks dialect).rest with
    | some found =>
        rw [tagToken_closing finished closes]
        exact unlisted_of_kind Kind.noConfusion
    | none =>
        rw [tagToken_eq finished closes]
        cases found : pieceAt dialect scanner.last (scanner.skipBlanks dialect).rest with
        | error fault => exact unlisted_of_kind Kind.noConfusion
        | ok piece =>
            intro named symbol listed same
            refine name_ne_of_pieceAt usual found named symbol listed ?_
            rw [← same]
            exact String.toList_ofList.symm

theorem unlisted_textToken (scanner : Scanner) : Unlisted (scanner.textToken dialect).1 := by
  fun_induction textToken dialect scanner with
  | case1 | case2 | case3 | case5 | case6 | case8 => exact unlisted_of_kind Kind.noConfusion
  | case4 _ _ _ _ _ _ _ _ _ _ _ ih => exact ih
  | case7 _ _ _ _ _ _ _ _ _ ih => exact ih

theorem unlisted_next (usual : dialect.symbols = .standard) (scanner : Scanner) :
    Unlisted (scanner.next dialect).1 := by
  unfold next
  split
  · exact unlisted_tagToken usual scanner
  · exact unlisted_textToken scanner.trimLine

theorem unlisted_collect (usual : dialect.symbols = .standard) (allowed : Nat)
    (scanner : Scanner) : ∀ token ∈ scanner.collect dialect allowed, Unlisted token := by
  induction allowed generalizing scanner with
  | zero => exact fun _ inside => absurd inside List.not_mem_nil
  | succ allowed ih =>
      intro token inside
      have first := unlisted_next usual scanner
      rw [collect_succ, resume] at inside
      split at inside
      · rwa [List.mem_singleton.mp inside]
      · rcases List.mem_cons.mp inside with rfl | later
        · exact first
        · exact ih _ token later

end Scanner

end

/-! ## Tables -/

/-- Whatever is added to a table, its symbols are those that were added, in a stable order by
descending priority. The symbol that is matched is the first that fits. If all spellings have their
own priority, none that fits is longer; a double counts bytes up to `2 ^ 53`, more than any memory
holds. With the usual table, no name is spelled like one of its symbols. -/
theorem matched_by_priority (additions : List Addition) :
    (SymbolTable.built additions).symbols =
      (additions.map Addition.symbol).mergeSort (fun first second => second.rank ≤ first.rank) ∧
    (∀ text symbol, (SymbolTable.built additions).matchAt text = some symbol ↔
      ∃ before after, (SymbolTable.built additions).symbols = before ++ symbol :: after ∧
        symbol.Fits text ∧ ∀ earlier ∈ before, ¬earlier.Fits text) ∧
    (∀ text, (SymbolTable.built additions).matchAt text = none ↔
      ∀ symbol ∈ (SymbolTable.built additions).symbols, ¬symbol.Fits text) ∧
    ((∀ addition ∈ additions, addition.IsPlain) →
      ∀ text symbol, (SymbolTable.built additions).matchAt text = some symbol →
        symbol.name.utf8ByteSize < 2 ^ 53 →
        ∀ other ∈ (SymbolTable.built additions).symbols, other.Fits text →
          other.name.utf8ByteSize ≤ symbol.name.utf8ByteSize) ∧
    ∀ dialect source, dialect.symbols = .standard →
      ∀ token ∈ scan dialect source, token.kind = .ident →
        ∀ symbol ∈ SymbolTable.standard.symbols, token.value ≠ symbol.name := by
  refine ⟨?_, fun text symbol => matchAt_eq_some, fun text => matchAt_eq_none, ?_, ?_⟩
  · exact (SymbolTable.stablyOrdered_built additions).unique (stablyOrdered_mergeSort _)
  · intro plain text symbol matched counted other listed fits
    exact longest_of_matchAt plain matched counted listed fits
  · intro dialect source usual token inside
    exact Scanner.unlisted_collect usual _ _ token inside

/-- Dots and a comma, of which the two dots are added later than the one. -/
def dots : List Addition :=
  [.plain "." .dot, .plain ".." .range, .plain "," .comma]

theorem dots_matched_by_priority :
    (∀ addition ∈ dots, addition.IsPlain) ∧
    (∃ symbol, (SymbolTable.built dots).matchAt ['.', '.', 'x'] = some symbol ∧
      symbol.kind = .range ∧ ∀ other ∈ (SymbolTable.built dots).symbols,
        other.Fits ['.', '.', 'x'] → other.name.utf8ByteSize ≤ symbol.name.utf8ByteSize) ∧
    ∃ token ∈ scan .standard "[% INDEX %]", token.kind = .ident ∧
      ∀ symbol ∈ SymbolTable.standard.symbols, token.value ≠ symbol.name := by
  obtain ⟨-, -, -, longest, names⟩ := matched_by_priority dots
  have plain : ∀ addition ∈ dots, addition.IsPlain := by
    simp [dots, Addition.IsPlain]
  have matched : ((SymbolTable.built dots).matchAt ['.', '.', 'x']).map
      (fun symbol => (symbol.name, symbol.kind)) = some ("..", .range) := by
    decide +kernel
  obtain ⟨symbol, matched, spelled⟩ := Option.map_eq_some_iff.mp matched
  obtain ⟨named, kind⟩ := Prod.mk.inj spelled
  have counted : symbol.name.utf8ByteSize < 2 ^ 53 := by
    rw [named]
    decide
  have scanned : ⟨.ident, ⟨3, 1⟩, "INDEX"⟩ ∈ scan .standard "[% INDEX %]" := by
    decide +kernel
  exact ⟨plain, ⟨symbol, matched, kind, longest plain _ symbol matched counted⟩,
    _, scanned, rfl, names .standard _ rfl _ scanned rfl⟩

end Stencil.Token

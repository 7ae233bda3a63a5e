import Stencil.Decimal.Reader
import Stencil.Text.Bytes
import Stencil.Text.Search
import Stencil.Token.Basic
import Stencil.Unicode.Word

/-!
# Symbol tables

The operators and keywords of tags, in the order in which they are tried. Symbols of high priority
come first; those of equal priority stand in the order in which they were added.
-/

namespace Stencil.Token

structure Symbol where
  name : String
  kind : Kind
  /-- The bits of a double. -/
  priority : UInt64
deriving Repr, DecidableEq

/-- The rank of a double in the total order of doubles, which tells zeros apart and puts what is no
number at the ends. -/
def totalRank (bits : UInt64) : Int :=
  if bits < 0x8000000000000000 then bits.toNat else 0x7fffffffffffffff - (bits.toNat : Int)

structure SymbolTable where
  symbols : List Symbol
deriving Repr

namespace SymbolTable

def empty : SymbolTable := ⟨[]⟩

/-- Places a symbol behind those of at least its priority. -/
def place (symbol : Symbol) : List Symbol → List Symbol
  | [] => [symbol]
  | other :: rest =>
      if totalRank other.priority < totalRank symbol.priority then symbol :: other :: rest
      else other :: place symbol rest

def addWithPriority (table : SymbolTable) (name : String) (kind : Kind) (priority : UInt64) :
    SymbolTable :=
  ⟨place ⟨name, kind, priority⟩ table.symbols⟩

/-- The priority of a spelling is the count of its bytes, so that longer spellings come first. -/
def add (table : SymbolTable) (name : String) (kind : Kind) : SymbolTable :=
  table.addWithPriority name kind (Decimal.ofInt name.utf8ByteSize).toBits

/-- Whether a spelling ends like a word, so that it must not be followed by more of one. -/
def isWordLike (name : String) : Bool :=
  match name.toList.getLast? with
  | some last => last.isAlphanum || last == '_'
  | none => false

/-- What follows the symbol in a text that begins with it. -/
def matches? (symbol : Symbol) (text : List Char) : Option (List Char) :=
  match symbol.name.toList.isPrefixOf? text with
  | none => none
  | some [] => some []
  | some (next :: rest) =>
      if isWordLike symbol.name && Unicode.isWordChar next then none else some (next :: rest)

/-- The first symbol that the text begins with. -/
def matchAt (table : SymbolTable) (text : List Char) : Option Symbol :=
  table.symbols.find? fun symbol => (matches? symbol text).isSome

def ofList (entries : List (String × Kind)) : SymbolTable :=
  entries.foldl (fun table (name, kind) => table.add name kind) empty

/-- The words and operators of tags. -/
def standard : SymbolTable :=
  ofList [
    ("GET", .getWord), ("SET", .setWord), ("CALL", .callWord), ("IF", .ifWord),
    ("ELSIF", .elsifWord), ("ELSE", .elseWord), ("UNLESS", .unlessWord),
    ("FOREACH", .foreachWord), ("IN", .inWord), ("WHILE", .whileWord), ("MACRO", .macroWord),
    ("BLOCK", .blockWord), ("INCLUDE", .includeWord), ("WRAPPER", .wrapperWord),
    ("WITH", .withWord), ("END", .endWord),
    ("true", .true), ("false", .false), ("nil", .nil),
    ("AND", .and), ("and", .and), ("OR", .or), ("or", .or), ("NOT", .not), ("not", .not),
    ("&&", .and), ("||", .or),
    ("==", .eq), ("!=", .notEq), ("<=", .ltEq), (">=", .gtEq),
    ("+=", .addAssign), ("-=", .subAssign), ("*=", .mulAssign), ("/=", .divAssign),
    ("..", .range), ("!", .not), ("<", .lt), (">", .gt), ("=", .assign),
    ("+", .plus), ("-", .minus), ("*", .star), ("/", .slash), ("%", .percent), ("~", .tilde),
    (".", .dot), (",", .comma), ("|", .pipe), ("(", .leftParen), (")", .rightParen),
    ("[", .leftBracket), ("]", .rightBracket)]

end SymbolTable

/-- The surface of templates: what opens and closes a tag, how often a loop may go round, and the
symbols inside tags. -/
structure Dialect where
  opening : String
  closing : String
  maxIterations : Nat
  symbols : SymbolTable

def Dialect.standard : Dialect where
  opening := "[%"
  closing := "%]"
  maxIterations := 1000
  symbols := .standard

end Stencil.Token

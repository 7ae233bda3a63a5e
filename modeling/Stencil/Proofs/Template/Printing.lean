import Stencil.Decimal.Style
import Stencil.Proofs.Token.Written
import Stencil.Template.Grammar

/-!
# Printed expressions

How expressions are written: with blanks between the tokens, and with parentheses only around
operands that bind more loosely than their place allows.
-/

namespace Stencil

/-! ## Trees without places -/

namespace Node

mutual

/-- The same tree, with all places at the start. -/
def unplaced : Node → Node
  | text _ content => text .start content
  | int _ n => int .start n
  | uint _ n => uint .start n
  | float _ x => float .start x
  | string _ content => string .start content
  | bool _ b => bool .start b
  | nil _ => nil .start
  | localVar _ name slot => localVar .start name slot
  | symbol _ name => symbol .start name
  | loopVar _ slot => loopVar .start slot
  | field _ container name => field .start container.unplaced name
  | index _ container position => index .start container.unplaced position.unplaced
  | methodCall _ invocant name arguments =>
      methodCall .start invocant.unplaced name (unplacedAll arguments)
  | functionCall _ name arguments => functionCall .start name (unplacedAll arguments)
  | macroCall _ name arguments => macroCall .start name (unplacedAll arguments)
  | filter _ operand name => filter .start operand.unplaced name
  | unary _ op operand => unary .start op operand.unplaced
  | binary _ op left right => binary .start op left.unplaced right.unplaced
  | assign _ name slot value => assign .start name slot value.unplaced
  | list _ items => list .start (unplacedAll items)
  | range _ first last => range .start first.unplaced last.unplaced
  | print _ operand => print .start operand.unplaced
  | discard _ operand => discard .start operand.unplaced
  | conditional _ condition positive negative =>
      conditional .start condition.unplaced (unplacedAll positive) (unplacedAll negative)
  | forLoop _ element slot source body maxIterations =>
      forLoop .start element slot source.unplaced (unplacedAll body) maxIterations
  | whileLoop _ condition body slot maxIterations =>
      whileLoop .start condition.unplaced (unplacedAll body) slot maxIterations
  | macroDef _ name parameters body => macroDef .start name parameters (unplacedAll body)
  | inclusion _ template bindings => inclusion .start template.unplaced (unplacedBindings bindings)
  | wrapper _ template bindings body =>
      wrapper .start template.unplaced (unplacedBindings bindings) (unplacedAll body)

def unplacedAll : List Node → List Node
  | [] => []
  | first :: rest => first.unplaced :: unplacedAll rest

def unplacedBindings : List (String × Node) → List (String × Node)
  | [] => []
  | (name, first) :: rest => (name, first.unplaced) :: unplacedBindings rest

end

end Node

namespace Template

open Node (UnaryOp BinaryOp)
open Token (Digits Gap Kind Lexeme Name Symbol SymbolTable)

/-- Expressions as they are printed. Integers beyond the signed ones are unsigned. -/
inductive Expression where
  | int (n : Int64)
  | uint (n : UInt64) (large : 0x8000000000000000 ≤ n)
  | string (content : String)
  | bool (b : Bool)
  | nil
  | symbol (name : Name)
  | field (container : Expression) (name : Name)
  | index (container position : Expression)
  | methodCall (invocant : Expression) (name : Name) (arguments : List Expression)
  | functionCall (name : Name) (arguments : List Expression)
  | filter (operand : Expression) (name : Name)
  | unary (op : UnaryOp) (operand : Expression)
  | binary (op : BinaryOp) (left right : Expression)
  | list (items : List Expression)
  | range (first last : Expression)

/-! ## Operators and marks -/

/-- The operators and marks of expressions. -/
inductive Mark where
  | binary (op : BinaryOp)
  | unary (op : UnaryOp)
  | bool (b : Bool)
  | nil | dot | range | comma | pipe | leftParen | rightParen | leftBracket | rightBracket

namespace Mark

def binaryName : BinaryOp → String
  | .add => "+"
  | .sub => "-"
  | .mul => "*"
  | .div => "/"
  | .mod => "%"
  | .concat => "~"
  | .eq => "=="
  | .ne => "!="
  | .lt => "<"
  | .gt => ">"
  | .le => "<="
  | .ge => ">="
  | .and => "&&"
  | .or => "||"

def binaryKind : BinaryOp → Kind
  | .add => .plus
  | .sub => .minus
  | .mul => .star
  | .div => .slash
  | .mod => .percent
  | .concat => .tilde
  | .eq => .eq
  | .ne => .notEq
  | .lt => .lt
  | .gt => .gt
  | .le => .ltEq
  | .ge => .gtEq
  | .and => .and
  | .or => .or

def name : Mark → String
  | binary op => binaryName op
  | unary .not => "!"
  | unary .neg => "-"
  | bool true => "true"
  | bool false => "false"
  | nil => "nil"
  | dot => "."
  | range => ".."
  | comma => ","
  | pipe => "|"
  | leftParen => "("
  | rightParen => ")"
  | leftBracket => "["
  | rightBracket => "]"

def kind : Mark → Kind
  | binary op => binaryKind op
  | unary .not => .not
  | unary .neg => .minus
  | bool true => .true
  | bool false => .false
  | nil => .nil
  | dot => .dot
  | range => .range
  | comma => .comma
  | pipe => .pipe
  | leftParen => .leftParen
  | rightParen => .rightParen
  | leftBracket => .leftBracket
  | rightBracket => .rightBracket

/-- The entry of a mark in the table, which has the size of the name as its priority. -/
def symbol (mark : Mark) : Symbol :=
  ⟨mark.name, mark.kind, (Decimal.ofInt mark.name.utf8ByteSize).toBits⟩

def operators : List BinaryOp :=
  [.add, .sub, .mul, .div, .mod, .concat, .eq, .ne, .lt, .gt, .le, .ge, .and, .or]

def all : List Mark :=
  operators.map binary ++ [unary .not, unary .neg, bool true, bool false, nil, dot, range, comma,
    pipe, leftParen, rightParen, leftBracket, rightBracket]

theorem mem_all (mark : Mark) : mark ∈ all := by
  have operator (op : BinaryOp) : op ∈ operators := by cases op <;> decide
  cases mark with
  | binary op => exact List.mem_append_left _ (List.mem_map_of_mem (operator op))
  | unary op => cases op <;> simp [all]
  | bool b => cases b <;> simp [all]
  | _ => simp [all]

theorem all_listed : ∀ mark ∈ all, mark.symbol ∈ SymbolTable.standard.symbols := by
  decide +kernel

theorem listed (mark : Mark) : mark.symbol ∈ SymbolTable.standard.symbols :=
  all_listed mark mark.mem_all

def lexeme (mark : Mark) : Lexeme :=
  .symbol mark.symbol mark.listed

end Mark

/-! ## Printing -/

def digits (n : Nat) : Digits where
  chars := Decimal.digitsOf n
  nonempty := Nat.toDigits_ne_nil
  digits _ inside := Nat.isDigit_of_mem_toDigits (b := 10) (by decide) (by decide) inside

/-- The level at which an operator joins its operands, from the loosest at one to the tightest. -/
def operatorLevel : BinaryOp → Nat
  | .or => 1
  | .and => 2
  | .eq | .ne => 3
  | .lt | .gt | .le | .ge => 4
  | .add | .sub | .concat => 5
  | .mul | .div | .mod => 6

namespace Expression

/-- How tightly an expression binds. -/
def level : Expression → Nat
  | filter _ _ => 0
  | binary op _ _ => operatorLevel op
  | unary _ _ => 7
  | _ => 8

def number (negative : Bool) (n : Nat) : Lexeme :=
  .number negative (.decimal (digits n) none none)

/-- Where an operand of a level is asked for, looser expressions stand in parentheses. -/
def enclosed (loose : Bool) (lexemes : List Lexeme) : List Lexeme :=
  if loose then Mark.leftParen.lexeme :: (lexemes ++ [Mark.rightParen.lexeme]) else lexemes

mutual

def lexemes : Expression → List Lexeme
  | int n => [number (n.toInt < 0) n.toInt.natAbs]
  | uint n _ => [number false n.toNat]
  | string content => [.string '"' (.inl rfl) content.toList]
  | bool b => [(Mark.bool b).lexeme]
  | nil => [Mark.nil.lexeme]
  | symbol name => [.name name]
  | field container name =>
      enclosed (container.level < 8) container.lexemes ++ [Mark.dot.lexeme, .name name]
  | index container position =>
      enclosed (container.level < 8) container.lexemes ++
        Mark.leftBracket.lexeme :: (position.lexemes ++ [Mark.rightBracket.lexeme])
  | methodCall invocant name arguments =>
      enclosed (invocant.level < 8) invocant.lexemes ++
        Mark.dot.lexeme :: .name name :: Mark.leftParen.lexeme ::
          (itemsLexemes arguments ++ [Mark.rightParen.lexeme])
  | functionCall name arguments =>
      .name name :: Mark.leftParen.lexeme :: (itemsLexemes arguments ++ [Mark.rightParen.lexeme])
  | filter operand name => operand.lexemes ++ [Mark.pipe.lexeme, .name name]
  | unary op operand =>
      (Mark.unary op).lexeme :: enclosed (operand.level < 7) operand.lexemes
  | binary op left right =>
      enclosed (left.level < operatorLevel op) left.lexemes ++
        (Mark.binary op).lexeme :: enclosed (right.level ≤ operatorLevel op) right.lexemes
  | list items =>
      Mark.leftBracket.lexeme :: (itemsLexemes items ++ [Mark.rightBracket.lexeme])
  | range first last =>
      Mark.leftBracket.lexeme ::
        (first.lexemes ++ Mark.range.lexeme :: (last.lexemes ++ [Mark.rightBracket.lexeme]))

/-- Expressions with commas between them. -/
def itemsLexemes : List Expression → List Lexeme
  | [] => []
  | first :: rest => first.lexemes ++ moreLexemes rest

def moreLexemes : List Expression → List Lexeme
  | [] => []
  | next :: rest => Mark.comma.lexeme :: (next.lexemes ++ moreLexemes rest)

end

theorem lexemes_filter (operand : Expression) (name : Name) :
    (filter operand name).lexemes = operand.lexemes ++ [Mark.pipe.lexeme, .name name] := by
  rw [lexemes]

def space : Gap :=
  ⟨.blank ' ' Unicode.isBlank_space, []⟩

/-- An expression in a tag. -/
def printed (expression : Expression) : String :=
  .ofList (Token.writtenTag space (expression.lexemes.map (·, space)))

/-! ## Trees -/

def text (name : Name) : String :=
  .ofList (name.first :: name.rest)

mutual

/-- The tree of an expression, at the start of a template. -/
def node : Expression → Node
  | int n => .int .start n
  | uint n _ => .uint .start n
  | string content => .string .start content
  | bool b => .bool .start b
  | nil => .nil .start
  | symbol name => .symbol .start (text name)
  | field container name => .field .start container.node (text name)
  | index container position => .index .start container.node position.node
  | methodCall invocant name arguments =>
      .methodCall .start invocant.node (text name) (nodes arguments)
  | functionCall name arguments => .functionCall .start (text name) (nodes arguments)
  | filter operand name => .filter .start operand.node (text name)
  | unary op operand => .unary .start op operand.node
  | binary op left right => .binary .start op left.node right.node
  | list items => .list .start (nodes items)
  | range first last => .range .start first.node last.node

def nodes : List Expression → List Node
  | [] => []
  | first :: rest => first.node :: nodes rest

end

end Expression

end Template

end Stencil

import Stencil.Place

/-!
# Tokens

The pieces that a template is cut into. Outside tags they are runs of raw text, inside tags
literals, names, operators and keywords.
-/

namespace Stencil

namespace Token

inductive Kind where
  | rawText | eof | error | tagStart | tagEnd
  | number | string | true | false | nil | ident
  | dot | range | comma | pipe | leftParen | rightParen | leftBracket | rightBracket
  | assign | addAssign | subAssign | mulAssign | divAssign
  | plus | minus | star | slash | percent | tilde
  | eq | notEq | lt | gt | ltEq | gtEq
  | and | or | not
  | getWord | setWord | callWord | ifWord | elsifWord | elseWord | unlessWord | foreachWord
  | inWord | whileWord | macroWord | blockWord | includeWord | wrapperWord | withWord | endWord
deriving Repr, DecidableEq, Inhabited

namespace Kind

/-- The name of a kind in listings. -/
def name : Kind → String
  | rawText => "RawText"
  | eof => "Eof"
  | error => "Error"
  | tagStart => "TagStart"
  | tagEnd => "TagEnd"
  | number => "Number"
  | string => "String"
  | .true => "True"
  | .false => "False"
  | nil => "Nil"
  | ident => "Ident"
  | dot => "Dot"
  | range => "Range"
  | comma => "Comma"
  | pipe => "Pipe"
  | leftParen => "LParen"
  | rightParen => "RParen"
  | leftBracket => "LBracket"
  | rightBracket => "RBracket"
  | assign => "Assign"
  | addAssign => "AddAssign"
  | subAssign => "SubAssign"
  | mulAssign => "MulAssign"
  | divAssign => "DivAssign"
  | plus => "Plus"
  | minus => "Minus"
  | star => "Star"
  | slash => "Slash"
  | percent => "Percent"
  | tilde => "Tilde"
  | eq => "Eq"
  | notEq => "NotEq"
  | lt => "Lt"
  | gt => "Gt"
  | ltEq => "LtEq"
  | gtEq => "GtEq"
  | and => "And"
  | or => "Or"
  | not => "Not"
  | getWord => "Get"
  | setWord => "Set"
  | callWord => "Call"
  | ifWord => "If"
  | elsifWord => "Elsif"
  | elseWord => "Else"
  | unlessWord => "Unless"
  | foreachWord => "Foreach"
  | inWord => "In"
  | whileWord => "While"
  | macroWord => "Macro"
  | blockWord => "Block"
  | includeWord => "Include"
  | wrapperWord => "Wrapper"
  | withWord => "With"
  | endWord => "End"

/-- How error messages speak of a kind. -/
def display : Kind → String
  | rawText => "raw text"
  | eof => "end of input"
  | error => "error"
  | tagStart => "tag start"
  | tagEnd => "tag end"
  | number => "number"
  | string => "string"
  | .true => "true"
  | .false => "false"
  | nil => "nil"
  | ident => "identifier"
  | dot => "'.'"
  | range => "'..'"
  | comma => "','"
  | pipe => "'|'"
  | leftParen => "'('"
  | rightParen => "')'"
  | leftBracket => "'['"
  | rightBracket => "']'"
  | assign => "'='"
  | addAssign => "'+='"
  | subAssign => "'-='"
  | mulAssign => "'*='"
  | divAssign => "'/='"
  | plus => "'+'"
  | minus => "'-'"
  | star => "'*'"
  | slash => "'/'"
  | percent => "'%'"
  | tilde => "'~'"
  | eq => "'=='"
  | notEq => "'!='"
  | lt => "'<'"
  | gt => "'>'"
  | ltEq => "'<='"
  | gtEq => "'>='"
  | and => "'&&'"
  | or => "'||'"
  | not => "'!'"
  | getWord => "GET"
  | setWord => "SET"
  | callWord => "CALL"
  | ifWord => "IF"
  | elsifWord => "ELSIF"
  | elseWord => "ELSE"
  | unlessWord => "UNLESS"
  | foreachWord => "FOREACH"
  | inWord => "IN"
  | whileWord => "WHILE"
  | macroWord => "MACRO"
  | blockWord => "BLOCK"
  | includeWord => "INCLUDE"
  | wrapperWord => "WRAPPER"
  | withWord => "WITH"
  | endWord => "END"

/-- Kinds after which an operand is complete, so that a sign is an operator. -/
def endsOperand : Kind → Bool
  | number | string | .true | .false | nil | ident | rightParen | rightBracket => Bool.true
  | _ => Bool.false

/-- Every kind. -/
def all : List Kind :=
  [rawText, eof, error, tagStart, tagEnd, number, string, .true, .false, nil, ident, dot, range,
    comma, pipe, leftParen, rightParen, leftBracket, rightBracket, assign, addAssign, subAssign,
    mulAssign, divAssign, plus, minus, star, slash, percent, tilde, eq, notEq, lt, gt, ltEq, gtEq,
    and, or, not, getWord, setWord, callWord, ifWord, elsifWord, elseWord, unlessWord,
    foreachWord, inWord, whileWord, macroWord, blockWord, includeWord, wrapperWord, withWord,
    endWord]

def ofName? (text : String) : Option Kind :=
  all.find? (·.name == text)

/-- Kinds that end a stream of tokens. -/
def endsStream : Kind → Bool
  | eof | error => Bool.true
  | _ => Bool.false

end Kind

end Token

/-- The value is the source text of names, numbers and raw text, the contents of strings, and the
message of an error. -/
structure Token where
  kind : Token.Kind
  place : Place
  value : String
deriving Repr, DecidableEq, Inhabited

/-- How error messages speak of a token. -/
def Token.display (token : Token) : String :=
  match token.kind with
  | .ident | .number => token.kind.display ++ " '" ++ token.value ++ "'"
  | .string => "string \"" ++ token.value ++ "\""
  | kind => kind.display

end Stencil

import Stencil.Text.Quoted
import Stencil.Token.Basic

/-!
# Token listings

One line for each token: its place, a rough class, and either the kind with the quoted value or
the text that error messages use. Colours are escape sequences of terminals.
-/

namespace Stencil.Token

/-- The class of a kind in a listing. -/
def Kind.category : Kind → String
  | rawText => "TEXT"
  | tagStart | tagEnd => "TAG"
  | eof => "EOF"
  | error => "ERROR"
  | number => "NUMBER"
  | string => "STRING"
  | .true | .false => "BOOL"
  | nil => "NIL"
  | ident => "IDENT"
  | leftParen | rightParen | leftBracket | rightBracket | comma | dot | range | pipe => "PUNCT"
  | plus | minus | star | slash | percent | tilde | and | or | not => "OP"
  | assign | addAssign | subAssign | mulAssign | divAssign => "ASSIGN"
  | eq | notEq | lt | ltEq | gt | gtEq => "CMP"
  | _ => "KEYWORD"

/-- The number of the colour of a kind. -/
def Kind.colour : Kind → Nat
  | rawText | eof => 2
  | tagStart | tagEnd => 34
  | string => 32
  | number | .true | .false | nil => 36
  | ident => 33
  | plus | minus | star | slash | percent | tilde | and | or | not => 35
  | eq | notEq | lt | gt | ltEq | gtEq => 35
  | _ => 0

/-- The sequence that switches to a colour; zero switches back. -/
def colourCode (number : Nat) : String :=
  s!"\x1b[{number}m"

/-- A number with zeros before it up to a width. -/
def padNumber (width n : Nat) : String :=
  let digits := toString n
  "".pushn '0' (width - digits.length) ++ digits

def padRight (width : Nat) (text : String) : String :=
  text.pushn ' ' (width - text.length)

structure ListingStyle where
  colour : Bool
  /-- Shows tokens as error messages do, and only the length of raw text. -/
  pretty : Bool

/-- What a line says of a token after its class. -/
def ListingStyle.body (style : ListingStyle) (token : Token) : String :=
  if !style.pretty then token.kind.name ++ " " ++ Text.Quoted.encode token.value
  else if token.kind = .rawText then toString token.value.utf8ByteSize ++ " bytes"
  else token.display

def ListingStyle.line (style : ListingStyle) (token : Token) : String :=
  let place := "[" ++ padNumber 2 token.place.line ++ ":" ++ padNumber 4 token.place.offset ++ "] "
  let text := padRight 8 token.kind.category ++ " " ++ style.body token
  let coloured :=
    if style.colour then colourCode token.kind.colour ++ text ++ colourCode 0 else text
  place ++ coloured ++ "\n"

def ListingStyle.render (style : ListingStyle) (tokens : List Token) : String :=
  String.join (tokens.map style.line)

end Stencil.Token

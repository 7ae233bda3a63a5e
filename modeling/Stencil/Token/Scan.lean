import Stencil.Text.Trim
import Stencil.Token.Symbols

/-!
# Scanning

A template is read from left to right. Outside tags, everything up to the next opening is one
token; a dash inside the opening drops the blanks before it, a dash inside the closing those after
it up to the end of the line, and a tag that begins with a number sign is dropped altogether.
Inside tags, the closing is tried first, then numbers, strings, symbols and names. The first error
ends the stream.
-/

namespace Stencil.Token

open Text (cut?)
open Unicode (isBlank isAlphabetic isWordChar)

/-- What a scanner can find wrong. -/
inductive ScanFault where
  | unclosedTag (closing : String)
  | unclosedComment (closing : String)
  | unclosedString
  | noHexDigits
  | noExponentDigits
  | badNumber (text : String)
  | unexpected (c : Char)
  | unexpectedAfter (c : Char) (name : String)
deriving Repr, DecidableEq

def ScanFault.message : ScanFault → String
  | unclosedTag closing => s!"unclosed tag: expected '{closing}' before end of input"
  | unclosedComment closing => s!"unclosed comment tag: expected '{closing}' before end of input"
  | unclosedString => "unterminated string literal"
  | noHexDigits => "bad number: expected hex digits after 0x"
  | noExponentDigits => "bad number: missing exponent digits"
  | badNumber text => s!"bad number syntax: '{text}'"
  | unexpected c => s!"unexpected character '{c}'"
  | unexpectedAfter c name => s!"unexpected character '{c}' after identifier '{name}'"

/-! ## Inside tags -/

/-- How many characters of blanks and comments come first. A comment runs to the end of its line or
to the closing. -/
def blankSize (closing : List Char) (inComment : Bool) : List Char → Nat
  | [] => 0
  | c :: rest =>
      if inComment then
        if c = '\n' then blankSize closing false rest + 1
        else if closing.isPrefixOf (c :: rest) then
          if isBlank c then blankSize closing false rest + 1 else 0
        else if c = '-' ∧ closing.isPrefixOf rest then 0
        else blankSize closing true rest + 1
      else if isBlank c then blankSize closing false rest + 1
      else if c = '#' then blankSize closing true rest + 1
      else 0

def isHexDigit (c : Char) : Bool :=
  (Text.hexValue? c).isSome

/-- How many characters of a class come first. -/
def runSize (isMember : Char → Bool) (text : List Char) : Nat :=
  (text.takeWhile isMember).length

def signSize : List Char → Nat
  | '-' :: _ => 1
  | '+' :: _ => 1
  | _ => 0

/-- The size of a point and the digits after it; a point without digits is none. -/
def fractionSize : List Char → Nat
  | '.' :: digits =>
      match runSize Char.isDigit digits with
      | 0 => 0
      | size => size + 1
  | _ => 0

/-- The size of an exponent, if there is one; its mark must be followed by digits. -/
def exponentSize : List Char → Except ScanFault Nat
  | [] => .ok 0
  | mark :: rest =>
      if mark = 'e' ∨ mark = 'E' then
        match runSize Char.isDigit (rest.drop (signSize rest)) with
        | 0 => .error .noExponentDigits
        | size => .ok (1 + signSize rest + size)
      else .ok 0

def hexSize (text : List Char) : Except ScanFault Nat :=
  match runSize isHexDigit text with
  | 0 => .error .noHexDigits
  | size => .ok size

def decimalSize (text : List Char) : Except ScanFault Nat := do
  let whole := runSize Char.isDigit text
  let fraction := fractionSize (text.drop whole)
  return whole + fraction + (← exponentSize (text.drop (whole + fraction)))

/-- The size of the number at the start of a text. -/
def numberSize (text : List Char) : Except ScanFault Nat := do
  let sign := signSize text
  match text.drop sign with
  | '0' :: 'x' :: digits => return sign + 2 + (← hexSize digits)
  | '0' :: 'X' :: digits => return sign + 2 + (← hexSize digits)
  | digits => return sign + (← decimalSize digits)

/-- The size of a number that does not run into a word. -/
def loneNumberSize (text : List Char) : Except ScanFault Nat := do
  let size ← numberSize text
  if (text.drop size).head?.any isWordChar then throw (.badNumber (.ofList (text.take (size + 1))))
  else return size

/-- The character that stands for itself or for a control character after a backslash. -/
def unescape : Char → Char
  | 'n' => '\n'
  | 't' => '\t'
  | 'r' => '\r'
  | c => c

/-- The contents of a string after its opening quote, and its size with the closing one. -/
def readString? (quote : Char) : List Char → Option (List Char × Nat)
  | [] => none
  | '\\' :: c :: rest =>
      (readString? quote rest).map fun (value, size) => (unescape c :: value, size + 2)
  | c :: rest =>
      if c = quote then some ([], 1)
      else if c = '\\' then none
      else (readString? quote rest).map fun (value, size) => (c :: value, size + 1)

/-- The characters that may stand directly after a name. -/
def nameEnders : List Char :=
  ".,()[]|=+-*/%<>!&~#'\"".toList

def endsName (closing : List Char) : List Char → Bool
  | [] => true
  | next :: rest => isBlank next || nameEnders.contains next || closing.isPrefixOf (next :: rest)

/-- A token at the front of a text: its kind, its value and how many characters it takes. -/
structure Piece where
  kind : Kind
  value : List Char
  size : Nat

/-- A number, unless the text or what comes before it says that there is none. A digit after a dot
is the index of an element, which is never a fraction. -/
def number? (last : Option Kind) (text : List Char) : Option (Except ScanFault Piece) :=
  let piece (size : Nat) : Piece := ⟨.number, text.take size, size⟩
  match text with
  | [] => none
  | first :: rest =>
      if first.isDigit then
        if last = some .dot then some (.ok (piece (runSize Char.isDigit text)))
        else some ((loneNumberSize text).map piece)
      else
        let signed := (first == '-' || first == '+') && (rest.head?.any Char.isDigit) &&
          !(last.any Kind.endsOperand)
        if signed then some ((loneNumberSize text).map piece) else none

def string? : List Char → Option (Except ScanFault Piece)
  | [] => none
  | quote :: rest =>
      if quote = '"' ∨ quote = '\'' then
        match readString? quote rest with
        | some (value, size) => some (.ok ⟨.string, value, size + 1⟩)
        | none => some (.error .unclosedString)
      else none

def symbol? (table : SymbolTable) (text : List Char) : Option Piece :=
  (table.matchAt text).map fun symbol =>
    ⟨symbol.kind, symbol.name.toList, symbol.name.toList.length⟩

/-- A name, or the error that none starts or ends here. -/
def nameOrError (closing : List Char) : List Char → Except ScanFault Piece
  | [] => .error (.unexpected '\x00')
  | first :: rest =>
      if isAlphabetic first || first == '_' then
        let name := (first :: rest).takeWhile isWordChar
        let tail := (first :: rest).dropWhile isWordChar
        if endsName closing tail then .ok ⟨.ident, name, name.length⟩
        else .error (.unexpectedAfter (tail.head?.getD '\x00') (.ofList name))
      else .error (.unexpected first)

/-- The closing of a tag at the start of a text: whether it has a dash, and its size. -/
def closing? (closing text : List Char) : Option (Bool × Nat) :=
  if ('-' :: closing).isPrefixOf text then some (true, closing.length + 1)
  else if closing.isPrefixOf text then some (false, closing.length)
  else none

/-! ## The scanner -/

structure Scanner where
  rest : List Char
  place : Place
  inTag : Bool
  /-- The closing before had a dash. -/
  trims : Bool
  last : Option Kind

namespace Scanner

def start (source : String) : Scanner where
  rest := source.toList
  place := .start
  inTag := false
  trims := false
  last := none

/-- Moves on by some characters. -/
def moveBy (scanner : Scanner) (size : Nat) : Scanner :=
  { scanner with
    place := scanner.place.after (scanner.rest.take size)
    rest := scanner.rest.drop size }

theorem length_moveBy_lt {scanner : Scanner} {size : Nat} (unfinished : scanner.rest ≠ [])
    (positive : 0 < size) : (scanner.moveBy size).rest.length < scanner.rest.length := by
  have := List.length_pos_iff.mpr unfinished
  simp only [moveBy, List.length_drop]
  omega

/-- A token of some characters at the place of the scanner, which goes on after it. -/
def emit (scanner : Scanner) (kind : Kind) (value : List Char) (size : Nat) : Token × Scanner :=
  (⟨kind, scanner.place, .ofList value⟩, { scanner.moveBy size with last := some kind })

def failAt (scanner : Scanner) (place : Place) (fault : ScanFault) : Token × Scanner :=
  (⟨.error, place, fault.message⟩, { scanner with last := some .error })

def tagToken (dialect : Dialect) (scanner : Scanner) : Token × Scanner :=
  let closing := dialect.closing.toList
  let scanner := scanner.moveBy (blankSize closing false scanner.rest)
  let text := scanner.rest
  let finish : Except ScanFault Piece → Token × Scanner
    | .ok piece => scanner.emit piece.kind piece.value piece.size
    | .error fault => scanner.failAt scanner.place fault
  if text = [] then scanner.failAt scanner.place (.unclosedTag dialect.closing)
  else
    match closing? closing text with
    | some (trims, size) =>
        let (token, next) := scanner.emit .tagEnd closing size
        (token, { next with inTag := false, trims })
    | none =>
        match number? scanner.last text with
        | some result => finish result
        | none =>
            match string? text with
            | some result => finish result
            | none =>
                match symbol? dialect.symbols text with
                | some piece => finish (.ok piece)
                | none => finish (nameOrError closing text)

/-- How many blanks of a line come first, with its end. -/
def lineBlankSize : List Char → Nat
  | [] => 0
  | c :: rest =>
      if c = '\n' then 1
      else if isBlank c then lineBlankSize rest + 1
      else 0

/-- Drops the blanks that the closing before asked to drop. -/
def trimLine (scanner : Scanner) : Scanner :=
  if scanner.trims then { scanner.moveBy (lineBlankSize scanner.rest) with trims := false }
  else scanner

/-- Enters a tag; a dash belongs to its opening. -/
def openTag (dialect : Dialect) (scanner : Scanner) (dashed : Bool) : Token × Scanner :=
  let opening := dialect.opening.toList
  let (token, next) := scanner.emit .tagStart opening (opening.length + dashed.toNat)
  (token, { next with inTag := true })

/-- The next token outside tags, where comment tags and runs of dropped blanks are passed over.
Each of them takes some characters, unless opening and closing are both empty; the scan then
stops. -/
def textToken (dialect : Dialect) (scanner : Scanner) : Token × Scanner :=
  if finished : scanner.rest = [] then scanner.emit .eof [] 0
  else
    match cut? dialect.opening.toList scanner.rest with
    | none => scanner.emit .rawText scanner.rest scanner.rest.length
    | some ([], after) =>
        if after.head? = some '#' then
          match cut? dialect.closing.toList after with
          | none =>
              let ended := scanner.moveBy scanner.rest.length
              ended.failAt ended.place (.unclosedComment dialect.closing)
          | some (inside, _) =>
              let size := dialect.opening.toList.length + inside.length +
                dialect.closing.toList.length
              if positive : 0 < size then
                have := length_moveBy_lt finished positive
                textToken dialect (scanner.moveBy size)
              else scanner.failAt scanner.place (.unclosedComment dialect.closing)
        else scanner.openTag dialect (after.head? = some '-')
    | some (first :: before, after) =>
        let text := if after.head? = some '-' then Text.trimEnd (first :: before)
          else first :: before
        if text = [] then
          have := length_moveBy_lt finished (Nat.succ_pos before.length)
          textToken dialect (scanner.moveBy (before.length + 1))
        else scanner.emit .rawText text (before.length + 1)
termination_by scanner.rest.length

def next (dialect : Dialect) (scanner : Scanner) : Token × Scanner :=
  if scanner.inTag then scanner.tagToken dialect else scanner.trimLine.textToken dialect

/-- The tokens up to the first that ends the stream, at most as many as allowed. -/
def collect (dialect : Dialect) : Nat → Scanner → List Token
  | 0, _ => []
  | allowed + 1, scanner =>
      let (token, rest) := scanner.next dialect
      if token.kind.endsStream then [token] else token :: collect dialect allowed rest

end Scanner

/-- The tokens of a template. Every tag and every character gives at most two. -/
def scan (dialect : Dialect) (source : String) : List Token :=
  Scanner.collect dialect (2 * source.toList.length + 2) (.start source)

end Stencil.Token

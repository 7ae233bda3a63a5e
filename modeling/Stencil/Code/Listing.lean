import Stencil.Code.Check
import Stencil.Decimal.Style
import Stencil.Text.Quoted

/-!
# Listings of code

One line for each instruction, with a rule above every place that a jump reaches.
-/

namespace Stencil

/-- A number with zeros before it up to four places. -/
def placeText (n : Nat) : String :=
  let digits := toString n
  "".pushn '0' (4 - digits.length) ++ digits

/-- The words of a line before its operand, in twelve columns. -/
def column (mnemonic : String) : String :=
  mnemonic.pushn ' ' (12 - mnemonic.length)

def jumpText (mnemonic : String) (ip : Nat) (offset : Int) : String :=
  let arrow := if offset < 0 then "↑" else "↓"
  let target := match jumpTarget? ip offset with
    | some target => placeText target
    | none => "????"
  column mnemonic ++ signedText offset ++ " " ++ arrow ++ " (→ " ++ target ++ ")"

def Literal.listing : Literal → String
  | nil => "nil"
  | bool b => if b then "true" else "false"
  | int n => toString n.toInt
  | uint n => toString n.toNat ++ "u"
  | float bits => Decimal.listing.write (Float.ofBits bits)
  | text s => Text.Quoted.encode s

def Op.listing (ip : Nat) : Op → String
  | noop => "NOOP"
  | halt => "END"
  | loadNil => "NIL"
  | literal value => column "LITERAL" ++ value.listing
  | moveToSecond => "MOVE_TO_SB"
  | moveFromSecond => "MOVE_FROM_SB"
  | popToSecond => "POP_TO_SB"
  | push => "PUSH"
  | pop => "POP"
  | pushMark => "PUSH_MARK"
  | fetchSymbol name => column "FETCH_SYM" ++ name
  | fetchField name => column "FETCH_FIELD" ++ "." ++ name
  | fetchElement => column "FETCH_ELEM" ++ "; sa[sb]"
  | loadLocal slot => column "LOAD_LVAR" ++ s!"#{slot}"
  | saveLocal slot => column "SAVE_LVAR" ++ s!"#{slot}"
  | loopState slot => column "LOOP_VAR" ++ s!"#{slot}"
  | markRaw => "MARK_RAW"
  | print => "PRINT"
  | printRaw => "PRINT_RAW"
  | printText text => column "PRINT_CONST" ++ Text.Quoted.encode text
  | add => "ADD"
  | sub => "SUB"
  | mul => "MUL"
  | div => "DIV"
  | mod => "MOD"
  | concat => "CONCAT"
  | neg => "NEG"
  | eq => "EQ"
  | ne => "NE"
  | lt => "LT"
  | gt => "GT"
  | le => "LE"
  | ge => "GE"
  | and offset => jumpText "AND" ip offset
  | or offset => jumpText "OR" ip offset
  | not => "NOT"
  | goto offset => jumpText "GOTO" ip offset
  | jumpIfFalse offset => jumpText "JUMP_FALSE" ip offset
  | makeList => "MAKE_ARRAY"
  | makeMap => "MAKE_HASH"
  | range => column "RANGE" ++ "; sb..sa"
  | callFunction name => column "FUNCALL" ++ name
  | callMethod name => column "METHOD" ++ "." ++ name
  | callMacro name => column "MACRO_CALL" ++ name
  | filter name => column "FILTER" ++ "| " ++ name
  | escapeHtml => "HTML_ESCAPE"
  | escapeUri => "URI_ESCAPE"
  | forStart slot => column "FOR_START" ++ s!"#{slot}"
  | forNext slot max exit => jumpText "FOR_ITER" ip exit ++ s!" #{slot} max={max}"
  | loopGuard slot max => column "LOOP_GUARD" ++ s!"#{slot} max={max}"
  | beginCapture => "SAVE_WRITER"
  | endCapture => "RESTORE_WRITER"
  | inclusion => column "INCLUDE" ++ "; name=sa vars=sb"
  | wrapper => column "WRAPPER" ++ "; name=sa vars=sb"

/-- The line of an instruction, below a rule if a jump reaches it. -/
def opLines (targets : List Nat) (ip : Nat) (op : Op) : String :=
  let reached := targets.contains ip
  let rule := if reached then "      ┌" ++ "".pushn '─' 34 ++ "\n" else ""
  let marker := if reached then "► " else "  "
  rule ++ placeText ip ++ " " ++ marker ++ op.listing ip ++ "\n"

def linesFrom (targets : List Nat) (ip : Nat) : List Op → String
  | [] => ""
  | op :: rest => opLines targets ip op ++ linesFrom targets (ip + 1) rest

def doubleRule : String :=
  "".pushn '═' 40 ++ "\n"

/-- The lines of a stream below its title. -/
def streamListing (title : String) (ops : List Op) : String :=
  doubleRule ++ " " ++ title ++ "\n " ++ toString ops.length ++ " instructions\n" ++ doubleRule ++
    linesFrom (jumpTargets ops) 0 ops ++ "\n"

/-- The listing of a template and then of its macros. -/
def Code.listing (code : Code) : String :=
  streamListing code.name code.ops ++
    String.join (code.macros.map fun (name, body) =>
      streamListing (s!"MACRO {name}(" ++ ", ".intercalate body.parameters ++ ")") body.ops)

end Stencil

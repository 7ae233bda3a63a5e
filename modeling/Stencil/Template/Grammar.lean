import Stencil.Template.Node
import Stencil.Token.Stream

/-!
# Grammar

Which operators bind how tightly, and what can be wrong with the order of the tokens.
-/

namespace Stencil.Template

open Token (Kind)

/-- The binary operators of a level, from the loosest at zero to the tightest. -/
def operatorAt? : Nat → Kind → Option Node.BinaryOp
  | 0, .or => some .or
  | 1, .and => some .and
  | 2, .eq => some .eq
  | 2, .notEq => some .ne
  | 3, .lt => some .lt
  | 3, .gt => some .gt
  | 3, .ltEq => some .le
  | 3, .gtEq => some .ge
  | 4, .plus => some .add
  | 4, .minus => some .sub
  | 4, .tilde => some .concat
  | 5, .star => some .mul
  | 5, .slash => some .div
  | 5, .percent => some .mod
  | _, _ => none

/-- The count of levels. -/
def levels : Nat := 6

/-- An assignment stores the value, or combines it with the old one. -/
inductive Assignment where
  | plain
  | combined (op : Node.BinaryOp)
deriving Repr, DecidableEq

def assignment? : Kind → Option Assignment
  | .assign => some .plain
  | .addAssign => some (.combined .add)
  | .subAssign => some (.combined .sub)
  | .mulAssign => some (.combined .mul)
  | .divAssign => some (.combined .div)
  | _ => none

inductive GrammarFault where
  /-- Another token was wanted. -/
  | expected (what : String)
  | strayEnd
  | notAssignable (kindName : String)
  | hexOutOfRange (text : String)
  | badFloat (text : String)
  | integerOutOfRange (text : String)
  /-- The template holds more levels than it has tokens, which none does. -/
  | tooDeep
deriving Repr, DecidableEq

/-- A fault and the token at which it shows. -/
structure GrammarError where
  template : String
  token : Token
  fault : GrammarFault
deriving Repr, DecidableEq

namespace GrammarError

def expected? (error : GrammarError) : Option String :=
  match error.fault with
  | .expected what => some what
  | _ => none

def message (error : GrammarError) : String :=
  match error.fault with
  | .expected what => "expected " ++ what ++ ", found " ++ error.token.display
  | .strayEnd => "unexpected block terminator outside a block"
  | .notAssignable kindName => s!"cannot assign to {kindName}"
  | .hexOutOfRange text => s!"hex number out of range: {text}"
  | .badFloat text => s!"invalid float: {text}"
  | .integerOutOfRange text => s!"integer out of range: {text}"
  | .tooDeep => "nesting too deep"

def display (error : GrammarError) : String :=
  s!"{error.template}:{error.token.place.line}: syntax error: {error.message}"

end GrammarError

inductive ParseError where
  | scan (error : Token.ScanError)
  | grammar (error : GrammarError)
deriving Repr, DecidableEq

end Stencil.Template

import Stencil.Code.Generate
import Stencil.Fault
import Stencil.Template.Grammar

/-!
# Failures

All ways in which rendering a template can fail, from reading its text to running its code.
-/

namespace Stencil

/-- Why a template could not be loaded. -/
inductive LoadError where
  | notFound (name : String)
  | absolutePath (name : String)
  | parentDirectory (name : String)
  | unreadable (name reason : String)
  | notEncodable (name : String)
  | notDecodable (name : String)
deriving Repr, DecidableEq

def LoadError.message : LoadError → String
  | notFound name => s!"template '{name}' not found"
  | absolutePath name => s!"template '{name}': absolute paths are not allowed"
  | parentDirectory name => s!"template '{name}': '..' may not leave the search path"
  | unreadable name reason => s!"template '{name}': {reason}"
  | notEncodable name => s!"template '{name}': cannot encode bytecode"
  | notDecodable name => s!"template '{name}': cannot decode bytecode"

inductive Failure where
  | scan (error : Token.ScanError)
  | grammar (error : Template.GrammarError)
  | compile (error : CompileError)
  | run (error : RunError)
  | load (error : LoadError)
deriving Repr, DecidableEq

namespace Failure

def ofParse : Template.ParseError → Failure
  | .scan error => scan error
  | .grammar error => grammar error

/-- What a failure becomes in a call that it passes out of. Only errors of runs tell of calls. -/
def within : Failure → String → Failure
  | run error, call => run (error.within call)
  | other, _ => other

def message : Failure → String
  | scan error => error.display
  | grammar error => error.display
  | compile error => error.message
  | run error => error.message
  | load error => error.message

end Failure

end Stencil

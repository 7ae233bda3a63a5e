import Stencil.Code.Fuse
import Stencil.Failure
import Stencil.Template.Parse

/-!
# From text to code

A template is parsed, compiled and, where wanted, optimized; optimized code is checked once more.
-/

namespace Stencil

/-- Compiles a text under a name at some moment. -/
def compileSource (dialect : Token.Dialect) (optimize : Bool) (now : Time) (name source : String) :
    Except Failure Code := do
  let template ← (Template.parse dialect name source).mapError .ofParse
  let code ← (template.compile now).mapError .compile
  if optimize then
    match code.optimize.check with
    | .ok _ => return code.optimize
    | .error error => throw (.compile (.check error))
  else return code

end Stencil

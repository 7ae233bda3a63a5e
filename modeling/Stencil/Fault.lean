/-!
# Faults

What can go wrong while a template runs, and the text that says so.
-/

namespace Stencil

/-- The cause of a failed run. -/
inductive Fault where
  | divisionByZero
  | moduloByZero
  | typeMismatch (expected found : String)
  /-- A callee of some kind, called with too many or too few arguments. -/
  | arity (kind name : String) (expected found : Nat)
  | unknownFunction (name : String)
  | noMethod (typeName method : String)
  | undefinedMacro (name : String)
  /-- A stack of the machine held too little. -/
  | underflow (stack : String)
  | outOfCode (ip : Nat)
  | jumpLeavesCode (ip : Nat) (offset : Int)
  | rangeTooLong (first last : Int) (size limit : Nat)
  | callTooDeep (limit : Nat) (callee : String)
  | noLoader (template : String)
  /-- Reported by a function or object of the program that renders the template. -/
  | reported (message : String)
deriving Repr, DecidableEq

/-- A number with its sign, also when it is not negative. -/
def signedText (n : Int) : String :=
  if n < 0 then toString n else "+" ++ toString n

def Fault.message : Fault → String
  | divisionByZero => "division by zero"
  | moduloByZero => "modulo by zero"
  | typeMismatch expected found => s!"type error: expected {expected}, got {found}"
  | arity kind name expected found =>
      let ending := if expected = 1 then "" else "s"
      s!"{kind} '{name}' expects {expected} argument{ending}, got {found}"
  | unknownFunction name => s!"unknown function '{name}'"
  | noMethod typeName method => s!"{typeName} has no method '{method}'"
  | undefinedMacro name => s!"undefined macro '{name}'"
  | underflow stack => s!"{stack} underflow"
  | outOfCode ip => s!"instruction pointer {ip} out of range"
  | jumpLeavesCode ip offset =>
      let distance := signedText offset
      s!"jump from {ip} by {distance} leaves the code"
  | rangeTooLong first last size limit =>
      s!"range [{first}..{last}] has {size} elements, limit is {limit}"
  | callTooDeep limit callee =>
      s!"call depth limit exceeded ({limit}) - possible infinite recursion in {callee}"
  | noLoader template => s!"cannot include '{template}': no template loader configured"
  | reported message => message

/-- A fault with the calls that were under way, the innermost first. -/
structure RunError where
  fault : Fault
  trace : List String
deriving Repr, DecidableEq

/-- The error with one more call around those that it has. -/
def RunError.within (error : RunError) (call : String) : RunError :=
  { error with trace := error.trace ++ [call] }

/-- One numbered line for each call. -/
def traceLines (start : Nat) : List String → String
  | [] => ""
  | call :: rest => s!"\n    {start}: {call}" ++ traceLines (start + 1) rest

def RunError.message (error : RunError) : String :=
  "runtime error: " ++ error.fault.message ++
    if error.trace = [] then "" else "\n  call stack:" ++ traceLines 0 error.trace

end Stencil

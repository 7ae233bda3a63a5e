import Stencil.Dictionary

/-!
# Code

What templates are compiled to: instructions for a machine with an accumulator, a second register
and an operand stack. Binary instructions take their left operand from the second register and
their right one from the accumulator, which also receives the result. Jumps carry their distance
from the jumping instruction.
-/

namespace Stencil

inductive Literal where
  | nil
  | bool (b : Bool)
  | int (n : Int64)
  | uint (n : UInt64)
  /-- The bits of a double. -/
  | float (bits : UInt64)
  | text (s : String)
deriving Repr, DecidableEq, Inhabited

inductive Op where
  | noop
  /-- Ends the stream. -/
  | halt
  | loadNil
  | literal (value : Literal)
  | moveToSecond
  | moveFromSecond
  | popToSecond
  | push
  | pop
  /-- Remembers the height of the operand stack for an instruction with many operands. -/
  | pushMark
  | fetchSymbol (name : String)
  | fetchField (name : String)
  | fetchElement
  | loadLocal (slot : Nat)
  | saveLocal (slot : Nat)
  /-- Makes the state of the loop whose element is in the slot. -/
  | loopState (slot : Nat)
  | markRaw
  | print
  | printRaw
  | printText (text : String)
  | add | sub | mul | div | mod
  | concat
  | neg
  | eq | ne | lt | gt | le | ge
  /-- Jumps, and keeps the accumulator, if that counts as false. -/
  | and (offset : Int)
  /-- Jumps, and keeps the accumulator, if that counts as true. -/
  | or (offset : Int)
  | not
  | goto (offset : Int)
  | jumpIfFalse (offset : Int)
  /-- Makes a list of the operands above the mark. -/
  | makeList
  /-- Makes a map of the keys and values above the mark. -/
  | makeMap
  | range
  | callFunction (name : String)
  | callMethod (name : String)
  | callMacro (name : String)
  | filter (name : String)
  | escapeHtml
  | escapeUri
  | forStart (slot : Nat)
  /-- Moves on to the next element, or leaves the loop. -/
  | forNext (slot max : Nat) (exit : Int)
  /-- Counts an iteration, and says whether it is still allowed. -/
  | loopGuard (slot max : Nat)
  | beginCapture
  | endCapture
  /-- Runs the template named by the accumulator with the bindings in the second register. -/
  | inclusion
  /-- Runs a template likewise, with the content from the operand stack. -/
  | wrapper
deriving Repr, DecidableEq, Inhabited

namespace Op

/-- The name of an instruction in messages. -/
def name : Op → String
  | noop => "Noop"
  | halt => "End"
  | loadNil => "Nil"
  | literal _ => "Literal"
  | moveToSecond => "MoveToSb"
  | moveFromSecond => "MoveFromSb"
  | popToSecond => "PopToSb"
  | push => "Push"
  | pop => "Pop"
  | pushMark => "PushMark"
  | fetchSymbol _ => "FetchSymbol"
  | fetchField _ => "FetchField"
  | fetchElement => "FetchArrayElement"
  | loadLocal _ => "LoadLvar"
  | saveLocal _ => "SaveToLvar"
  | loopState _ => "LoopVar"
  | markRaw => "MarkRaw"
  | print => "Print"
  | printRaw => "PrintRaw"
  | printText _ => "PrintRawConst"
  | add => "Add"
  | sub => "Sub"
  | mul => "Mul"
  | div => "Div"
  | mod => "Mod"
  | concat => "Concat"
  | neg => "Neg"
  | eq => "Eq"
  | ne => "Ne"
  | lt => "Lt"
  | gt => "Gt"
  | le => "Le"
  | ge => "Ge"
  | and _ => "And"
  | or _ => "Or"
  | not => "Not"
  | goto _ => "Goto"
  | jumpIfFalse _ => "JumpIfFalse"
  | makeList => "MakeArray"
  | makeMap => "MakeHash"
  | range => "Range"
  | callFunction _ => "FunCallSymbol"
  | callMethod _ => "MethodCall"
  | callMacro _ => "MacroCall"
  | filter _ => "Filter"
  | escapeHtml => "HtmlEscape"
  | escapeUri => "UriEscape"
  | forStart _ => "ForStart"
  | forNext .. => "ForIter"
  | loopGuard .. => "LoopGuard"
  | beginCapture => "SaveWriter"
  | endCapture => "RestoreWriter"
  | inclusion => "Include"
  | wrapper => "Wrapper"

/-- The instructions without operands of their own. -/
def bare : List Op :=
  [noop, halt, loadNil, moveToSecond, moveFromSecond, popToSecond, push, pop, pushMark,
    fetchElement, markRaw, print, printRaw, add, sub, mul, div, mod, concat, neg, eq, ne, lt, gt,
    le, ge, not, makeList, makeMap, range, escapeHtml, escapeUri, beginCapture, endCapture,
    inclusion, wrapper]

/-- The distance that an instruction may jump. -/
def jump? : Op → Option Int
  | and offset | or offset | goto offset | jumpIfFalse offset | forNext _ _ offset => some offset
  | _ => none

/-- The instruction with another distance, if it may jump. -/
def withJump? (op : Op) (offset : Int) : Option Op :=
  match op with
  | and _ => some (and offset)
  | or _ => some (or offset)
  | goto _ => some (goto offset)
  | jumpIfFalse _ => some (jumpIfFalse offset)
  | forNext slot max _ => some (forNext slot max offset)
  | _ => none

end Op

/-- A moment, in nanoseconds since the start of 1970. -/
structure Time where
  nanoseconds : Int
deriving Repr, DecidableEq, Inhabited

namespace Time

def ofParts (seconds : Int) (nanoseconds : Nat) : Time :=
  ⟨seconds * 1000000000 + nanoseconds⟩

/-- Whole seconds, rounded down. -/
def seconds (time : Time) : Int :=
  time.nanoseconds / 1000000000

/-- The nanoseconds after the whole seconds. -/
def fraction (time : Time) : Nat :=
  (time.nanoseconds % 1000000000).toNat

def isAfter (time other : Time) : Bool :=
  other.nanoseconds < time.nanoseconds

end Time

structure MacroCode where
  parameters : List String
  ops : List Op
deriving Repr, DecidableEq, Inhabited

/-- A compiled template. -/
structure Code where
  name : String
  generatedAt : Time
  ops : List Op
  macros : List (String × MacroCode)
deriving Repr, DecidableEq, Inhabited

namespace Code

/-- Changes every stream, that of the template and those of its macros. -/
def mapStreams (change : List Op → List Op) (code : Code) : Code :=
  { code with
    ops := change code.ops
    macros := code.macros.map fun (name, body) => (name, { body with ops := change body.ops }) }

/-- The streams of a template and its macros, each with the name that messages give it. -/
def streams (code : Code) : List (String × List Op) :=
  (code.name, code.ops) ::
    code.macros.map fun (name, body) => (code.name ++ "::" ++ name, body.ops)

end Code

/-- Equality of instructions in which floats compare as numbers. -/
def Op.agrees : Op → Op → Bool
  | .literal (.float x), .literal (.float y) => Float.ofBits x == Float.ofBits y
  | a, b => a == b

def agreeStreams : List Op → List Op → Bool
  | [], [] => true
  | first :: rest, other :: others => first.agrees other && agreeStreams rest others
  | _, _ => false

/-- Equality of compiled templates in which floats compare as numbers. -/
def Code.agrees (code other : Code) : Bool :=
  code.name == other.name && code.generatedAt == other.generatedAt &&
    agreeStreams code.ops other.ops &&
    code.macros.map (fun (name, body) => (name, body.parameters)) ==
      other.macros.map (fun (name, body) => (name, body.parameters)) &&
    (code.macros.zip other.macros).all fun ((_, body), (_, otherBody)) =>
      agreeStreams body.ops otherBody.ops

end Stencil

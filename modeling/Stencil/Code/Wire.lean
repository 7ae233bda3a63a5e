import Stencil.Code.Basic
import Stencil.Code.Varint
import Stencil.Text.Bytes

/-!
# Code as bytes

Compiled templates are kept as bytes: each value as its parts in a fixed order, with counts before
texts and lists, and a number that tells the kinds of literals and instructions apart. Reading
accepts what writing produces, and leaves alone the bytes that follow.
-/

namespace Stencil.Wire

/-! ## Writing -/

def writeBool (b : Bool) : Bytes :=
  [if b then 1 else 0]

def writeInt (n : Int) : Bytes :=
  writeNat (fold n)

/-- Eight bytes, the lowest first. -/
def writeBits (bits : UInt64) : Bytes :=
  (List.range 8).map fun place => UInt8.ofNat (bits.toNat / Nat.pow 256 place % 256)

def writeText (text : String) : Bytes :=
  let bytes := Text.utf8 text
  writeNat bytes.length ++ bytes

def writeList {α : Type} (write : α → Bytes) (items : List α) : Bytes :=
  writeNat items.length ++ items.flatMap write

def writeLiteral : Literal → Bytes
  | .nil => writeNat 0
  | .bool b => writeNat 1 ++ writeBool b
  | .int n => writeNat 2 ++ writeInt n.toInt
  | .uint n => writeNat 3 ++ writeNat n.toNat
  | .float bits => writeNat 4 ++ writeBits bits
  | .text s => writeNat 5 ++ writeText s

def writeOp : Op → Bytes
  | .noop => writeNat 0
  | .halt => writeNat 1
  | .loadNil => writeNat 2
  | .literal value => writeNat 3 ++ writeLiteral value
  | .moveToSecond => writeNat 4
  | .moveFromSecond => writeNat 5
  | .popToSecond => writeNat 6
  | .push => writeNat 7
  | .pop => writeNat 8
  | .pushMark => writeNat 9
  | .fetchSymbol name => writeNat 10 ++ writeText name
  | .fetchField name => writeNat 11 ++ writeText name
  | .fetchElement => writeNat 12
  | .loadLocal slot => writeNat 13 ++ writeNat slot
  | .saveLocal slot => writeNat 14 ++ writeNat slot
  | .loopState slot => writeNat 15 ++ writeNat slot
  | .markRaw => writeNat 16
  | .print => writeNat 17
  | .printRaw => writeNat 18
  | .printText text => writeNat 19 ++ writeText text
  | .add => writeNat 20
  | .sub => writeNat 21
  | .mul => writeNat 22
  | .div => writeNat 23
  | .mod => writeNat 24
  | .concat => writeNat 25
  | .neg => writeNat 26
  | .eq => writeNat 27
  | .ne => writeNat 28
  | .lt => writeNat 29
  | .gt => writeNat 30
  | .le => writeNat 31
  | .ge => writeNat 32
  | .and offset => writeNat 33 ++ writeInt offset
  | .or offset => writeNat 34 ++ writeInt offset
  | .not => writeNat 35
  | .goto offset => writeNat 36 ++ writeInt offset
  | .jumpIfFalse offset => writeNat 37 ++ writeInt offset
  | .makeList => writeNat 38
  | .makeMap => writeNat 39
  | .range => writeNat 40
  | .callFunction name => writeNat 41 ++ writeText name
  | .callMethod name => writeNat 42 ++ writeText name
  | .callMacro name => writeNat 43 ++ writeText name
  | .filter name => writeNat 44 ++ writeText name
  | .escapeHtml => writeNat 45
  | .escapeUri => writeNat 46
  | .forStart slot => writeNat 47 ++ writeNat slot
  | .forNext slot max exit => writeNat 48 ++ writeNat slot ++ writeNat max ++ writeInt exit
  | .loopGuard slot max => writeNat 49 ++ writeNat slot ++ writeNat max
  | .beginCapture => writeNat 50
  | .endCapture => writeNat 51
  | .inclusion => writeNat 52
  | .wrapper => writeNat 53

def writeMacro (entry : String × MacroCode) : Bytes :=
  writeText entry.1 ++ writeList writeText entry.2.parameters ++ writeList writeOp entry.2.ops

/-- Moments before 1970 have no written form. -/
def writeTime? (time : Time) : Option Bytes :=
  if time.nanoseconds < 0 then none
  else some (writeNat time.seconds.toNat ++ writeNat time.fraction)

def write? (code : Code) : Option Bytes := do
  let time ← writeTime? code.generatedAt
  return writeText code.name ++ time ++ writeList writeOp code.ops ++
    writeList writeMacro code.macros

/-! ## Reading -/

def readBool : Reader Bool
  | 0 :: rest => some (false, rest)
  | 1 :: rest => some (true, rest)
  | _ => none

def readInt32 : Reader Int := fun bytes => do
  let (n, rest) ← readNat32 bytes
  return (unfold n, rest)

def readInt64 : Reader Int64 := fun bytes => do
  let (n, rest) ← readNat64 bytes
  return (Int64.ofInt (unfold n), rest)

/-- The number that some bytes spell, the lowest first. -/
def bitsOf (bytes : Bytes) : Nat :=
  bytes.foldr (fun byte high => byte.toNat + 256 * high) 0

/-- A count of bytes from the front, if there are so many. -/
def take (count : Nat) : Reader Bytes := fun bytes =>
  if bytes.length < count then none else some (bytes.splitAt count)

def readBits : Reader UInt64 := fun bytes => do
  let (word, rest) ← take 8 bytes
  return (UInt64.ofNat (bitsOf word), rest)

def readText : Reader String := fun bytes => do
  let (size, rest) ← readNat64 bytes
  let (word, rest) ← take size rest
  return (← Text.ofUtf8? word, rest)

def readMany {α : Type} (read : Reader α) : Nat → Reader (List α)
  | 0, bytes => some ([], bytes)
  | count + 1, bytes => do
      let (first, rest) ← read bytes
      let (more, rest) ← readMany read count rest
      return (first :: more, rest)

def readList {α : Type} (read : Reader α) : Reader (List α) := fun bytes => do
  let (count, rest) ← readNat64 bytes
  readMany read count rest

/-- The value of a literal of a given kind. -/
def readLiteralOf (kind : Nat) : Reader Literal := fun rest =>
  match kind with
  | 0 => some (.nil, rest)
  | 1 => do
      let (b, rest) ← readBool rest
      return (.bool b, rest)
  | 2 => do
      let (n, rest) ← readInt64 rest
      return (.int n, rest)
  | 3 => do
      let (n, rest) ← readNat64 rest
      return (.uint (UInt64.ofNat n), rest)
  | 4 => do
      let (bits, rest) ← readBits rest
      return (.float bits, rest)
  | 5 => do
      let (s, rest) ← readText rest
      return (.text s, rest)
  | _ => none

def readLiteral : Reader Literal := fun bytes => do
  let (kind, rest) ← readNat32 bytes
  readLiteralOf kind rest

/-- An instruction with a text. -/
def withText (make : String → Op) : Reader Op := fun bytes => do
  let (text, rest) ← readText bytes
  return (make text, rest)

/-- An instruction with a slot. -/
def withSlot (make : Nat → Op) : Reader Op := fun bytes => do
  let (slot, rest) ← readNat64 bytes
  return (make slot, rest)

/-- An instruction with the distance of a jump. -/
def withOffset (make : Int → Op) : Reader Op := fun bytes => do
  let (offset, rest) ← readInt32 bytes
  return (make offset, rest)

/-- The operands of an instruction of a given kind. -/
def readOperands (kind : Nat) : Reader Op := fun rest =>
  match kind with
  | 0 => some (.noop, rest)
  | 1 => some (.halt, rest)
  | 2 => some (.loadNil, rest)
  | 3 => do
      let (value, rest) ← readLiteral rest
      return (.literal value, rest)
  | 4 => some (.moveToSecond, rest)
  | 5 => some (.moveFromSecond, rest)
  | 6 => some (.popToSecond, rest)
  | 7 => some (.push, rest)
  | 8 => some (.pop, rest)
  | 9 => some (.pushMark, rest)
  | 10 => withText .fetchSymbol rest
  | 11 => withText .fetchField rest
  | 12 => some (.fetchElement, rest)
  | 13 => withSlot .loadLocal rest
  | 14 => withSlot .saveLocal rest
  | 15 => withSlot .loopState rest
  | 16 => some (.markRaw, rest)
  | 17 => some (.print, rest)
  | 18 => some (.printRaw, rest)
  | 19 => withText .printText rest
  | 20 => some (.add, rest)
  | 21 => some (.sub, rest)
  | 22 => some (.mul, rest)
  | 23 => some (.div, rest)
  | 24 => some (.mod, rest)
  | 25 => some (.concat, rest)
  | 26 => some (.neg, rest)
  | 27 => some (.eq, rest)
  | 28 => some (.ne, rest)
  | 29 => some (.lt, rest)
  | 30 => some (.gt, rest)
  | 31 => some (.le, rest)
  | 32 => some (.ge, rest)
  | 33 => withOffset .and rest
  | 34 => withOffset .or rest
  | 35 => some (.not, rest)
  | 36 => withOffset .goto rest
  | 37 => withOffset .jumpIfFalse rest
  | 38 => some (.makeList, rest)
  | 39 => some (.makeMap, rest)
  | 40 => some (.range, rest)
  | 41 => withText .callFunction rest
  | 42 => withText .callMethod rest
  | 43 => withText .callMacro rest
  | 44 => withText .filter rest
  | 45 => some (.escapeHtml, rest)
  | 46 => some (.escapeUri, rest)
  | 47 => withSlot .forStart rest
  | 48 => do
      let (slot, rest) ← readNat64 rest
      let (max, rest) ← readNat64 rest
      withOffset (.forNext slot max) rest
  | 49 => do
      let (slot, rest) ← readNat64 rest
      withSlot (.loopGuard slot) rest
  | 50 => some (.beginCapture, rest)
  | 51 => some (.endCapture, rest)
  | 52 => some (.inclusion, rest)
  | 53 => some (.wrapper, rest)
  | _ => none

def readOp : Reader Op := fun bytes => do
  let (kind, rest) ← readNat32 bytes
  readOperands kind rest

def readMacro : Reader (String × MacroCode) := fun bytes => do
  let (name, rest) ← readText bytes
  let (parameters, rest) ← readList readText rest
  let (ops, rest) ← readList readOp rest
  return ((name, ⟨parameters, ops⟩), rest)

/-- Nanoseconds of a second and more count as seconds; the seconds must fit into a signed word. -/
def readTime : Reader Time := fun bytes => do
  let (seconds, rest) ← readNat64 bytes
  let (nanoseconds, rest) ← readNat32 rest
  if seconds + nanoseconds / 1000000000 < 0x8000000000000000 then
    return (.ofParts seconds nanoseconds, rest)
  else none

/-- Of two macros with one name the later stays. -/
def read : Reader Code := fun bytes => do
  let (name, rest) ← readText bytes
  let (time, rest) ← readTime rest
  let (ops, rest) ← readList readOp rest
  let (macros, rest) ← readList readMacro rest
  return (⟨name, time, ops, Dictionary.ofList macros⟩, rest)

/-- The compiled template at the start of some bytes. -/
def ofBytes? (bytes : Bytes) : Option Code :=
  (read bytes).map (·.1)

end Stencil.Wire

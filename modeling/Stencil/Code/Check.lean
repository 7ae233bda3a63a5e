import Stencil.Code.Basic
import Stencil.Fault

/-!
# Checking jumps

A stream is sound when it ends with the ending instruction and no jump leaves it.
-/

namespace Stencil

/-- The place that a jump reaches, unless it is before the start. -/
def jumpTarget? (ip : Nat) (offset : Int) : Option Nat :=
  let target := (ip : Int) + offset
  if target < 0 then none else some target.toNat

/-- Adds a number to an increasing list, unless it is there. -/
def insertTarget (n : Nat) : List Nat → List Nat
  | [] => [n]
  | first :: rest =>
      if n < first then n :: first :: rest
      else if n = first then first :: rest
      else first :: insertTarget n rest

/-- The places that the jumps of a stream reach, given where the stream starts. -/
def jumpTargetsFrom (ip : Nat) : List Op → List Nat
  | [] => []
  | op :: rest =>
      match op.jump?.bind (jumpTarget? ip) with
      | some target => insertTarget target (jumpTargetsFrom (ip + 1) rest)
      | none => jumpTargetsFrom (ip + 1) rest

/-- The places that the jumps of a stream reach, in increasing order. -/
def jumpTargets (ops : List Op) : List Nat :=
  jumpTargetsFrom 0 ops

inductive CheckFault where
  | noHalt
  | jumpOutside (op : Op) (size : Nat) (offset : Int)
deriving Repr, DecidableEq

/-- A fault and where it is. -/
structure CheckError where
  stream : String
  ip : Nat
  fault : CheckFault
deriving Repr, DecidableEq

/-- A jump with its operands. -/
def Op.displayJump (op : Op) : String :=
  match op with
  | .forNext slot max exit => op.name ++ s!" \x7b slot: {slot}, max: {max}, exit: {exit} \x7d"
  | _ =>
      match op.jump? with
      | some offset => s!"{op.name}({offset})"
      | none => op.name

def CheckFault.message : CheckFault → String
  | noHalt => "instruction stream does not end with End"
  | jumpOutside op size offset =>
      op.displayJump ++ s!" lands outside 0..{size} (offset " ++ signedText offset ++ ")"

def CheckError.message (error : CheckError) : String :=
  s!"bytecode check error in {error.stream} at ip={error.ip}: " ++ error.fault.message

/-- Looks for a jump that leaves a stream of the given size. -/
def checkJumps (stream : String) (size ip : Nat) : List Op → Except CheckError Unit
  | [] => .ok ()
  | op :: rest =>
      match op.jump? with
      | none => checkJumps stream size (ip + 1) rest
      | some offset =>
          if (jumpTarget? ip offset).any (· < size) then checkJumps stream size (ip + 1) rest
          else .error ⟨stream, ip, .jumpOutside op size offset⟩

def checkStream (stream : String) (ops : List Op) : Except CheckError Unit :=
  if ops.getLast? = some .halt then checkJumps stream ops.length 0 ops
  else .error ⟨stream, ops.length, .noHalt⟩

/-- Checks streams in their order. -/
def checkStreams : List (String × List Op) → Except CheckError Unit
  | [] => .ok ()
  | (stream, ops) :: rest => do
      checkStream stream ops
      checkStreams rest

/-- Checks the stream of a template and those of its macros. -/
def Code.check (code : Code) : Except CheckError Unit :=
  checkStreams code.streams

end Stencil

import Stencil.Code.Check

/-!
# Fusing text prints

A text literal that is printed at once becomes one instruction and a gap, so that no jump has to
change. A pair is left alone when some jump reaches its second half.
-/

namespace Stencil

/-- Fuses the pairs of a stream that starts at `ip`. -/
def fuseFrom (targets : List Nat) (ip : Nat) : List Op → List Op
  | .literal (.text s) :: .printRaw :: rest =>
      if targets.contains (ip + 1) then
        .literal (.text s) :: fuseFrom targets (ip + 1) (.printRaw :: rest)
      else .printText s :: .noop :: fuseFrom targets (ip + 2) rest
  | op :: rest => op :: fuseFrom targets (ip + 1) rest
  | [] => []

/-- How many pairs are fused. -/
def fusionsFrom (targets : List Nat) (ip : Nat) : List Op → Nat
  | .literal (.text _) :: .printRaw :: rest =>
      if targets.contains (ip + 1) then fusionsFrom targets (ip + 1) (.printRaw :: rest)
      else fusionsFrom targets (ip + 2) rest + 1
  | _ :: rest => fusionsFrom targets (ip + 1) rest
  | [] => 0

def fuse (ops : List Op) : List Op :=
  fuseFrom (jumpTargets ops) 0 ops

def fusions (ops : List Op) : Nat :=
  fusionsFrom (jumpTargets ops) 0 ops

/-- Fuses the pairs of every stream. -/
def Code.optimize (code : Code) : Code :=
  code.mapStreams fuse

/-- The count of pairs that `optimize` fuses. -/
def Code.fusions (code : Code) : Nat :=
  (code.streams.map fun (_, ops) => Stencil.fusions ops).foldr (· + ·) 0

end Stencil

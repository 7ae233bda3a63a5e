/-!
# Pools

Buffers for output are used again. A buffer is emptied when it comes back and once more when it is
taken, whatever was written to it between.
-/

namespace Stencil

structure Pool where
  /-- How many buffers are kept at most. -/
  capacity : Nat
  /-- The buffers that are kept, the latest first. -/
  buffers : List String
deriving Repr, DecidableEq

namespace Pool

def withCapacity (capacity : Nat) : Pool :=
  ⟨capacity, []⟩

def standard : Pool :=
  withCapacity 16

def idle (pool : Pool) : Nat :=
  pool.buffers.length

/-- A buffer without its text. -/
def emptied (_buffer : String) : String :=
  ""

/-- An empty buffer: one of those kept, or a new one. -/
def take (pool : Pool) : String × Pool :=
  match pool.buffers with
  | [] => ("", pool)
  | buffer :: rest => (emptied buffer, { pool with buffers := rest })

/-- Keeps a buffer, without its text, if there is room for it. -/
def giveBack (pool : Pool) (buffer : String) : Pool :=
  if pool.idle < pool.capacity then { pool with buffers := emptied buffer :: pool.buffers }
  else pool

theorem take_eq_empty (pool : Pool) : pool.take.1 = "" := by
  unfold take
  split <;> rfl

end Pool

end Stencil

import Stencil.Compile
import Stencil.Store.Basic

/-!
# Loading templates

A template is loaded by its name: from the cache where the strategy allows it, else by compiling
its source. Code is out of date when the source was changed after the code was generated.
-/

namespace Stencil

/-- When code from the cache may be used. -/
inductive Strategy where
  /-- Never; nothing is put into the cache either. -/
  | never
  /-- Unless it is out of date. -/
  | verify
  /-- Whenever there is some. -/
  | noVerify
deriving Repr, DecidableEq

/-- How templates are compiled and when their code is used again. -/
structure Policy where
  strategy : Strategy
  dialect : Token.Dialect
  optimize : Bool
  /-- What the clock shows at each reading. -/
  clock : Nat → Time

namespace Policy

def compile (policy : Policy) (name source : String) (store : Store) :
    Except Failure Code × Store :=
  (compileSource policy.dialect policy.optimize (policy.clock store.readings) name source,
    { store with readings := store.readings + 1 })

/-- Code from the cache that may be used. -/
def reuse (policy : Policy) (name : String) (store : Store) :
    Except LoadError (Option Code) × Store :=
  match policy.strategy with
  | .never => (.ok none, store)
  | .noVerify =>
      let (found, store) := store.get name
      (.ok found, store)
  | .verify =>
      match store.get name with
      | (none, store) => (.ok none, store)
      | (some code, store) =>
          match store.fetch name with
          | (.error error, store) => (.error error, store)
          | (.ok source, store) =>
              if source.modified.isAfter code.generatedAt then (.ok none, store.delete name)
              else (.ok (some code), store)

/-- Puts new code into the cache, unless the strategy is to use none of it. -/
def keep (policy : Policy) (name : String) (code : Code) (store : Store) :
    Except Failure Code × Store :=
  if policy.strategy = .never then (.ok code, store)
  else
    match store.set name code with
    | (.ok (), store) => (.ok code, store)
    | (.error error, store) => (.error (.load error), store)

/-- Compiles the source of a template, and keeps its code. -/
def renew (policy : Policy) (name : String) (store : Store) : Except Failure Code × Store :=
  match store.fetch name with
  | (.error error, store) => (.error (.load error), store)
  | (.ok source, store) =>
      match policy.compile name source.content store with
      | (.error failure, store) => (.error failure, store)
      | (.ok code, store) => policy.keep name code store

def load (policy : Policy) (name : String) (store : Store) : Except Failure Code × Store :=
  match policy.reuse name store with
  | (.error error, store) => (.error (.load error), store)
  | (.ok (some code), store) => (.ok code, store)
  | (.ok none, store) => policy.renew name store

end Policy

end Stencil

import Stencil.Store.Cache
import Stencil.Store.Sources

/-!
# Stores

A store has the sources of templates and a cache of their code. It writes down what is asked of
either, and counts how often the clock was read.
-/

namespace Stencil

/-- What was asked of the sources or of the cache, and whether there was an answer. -/
inductive Event where
  | fetch (name : String) (found : Bool)
  | get (name : String) (found : Bool)
  | set (name : String)
  | delete (name : String)
deriving Repr, DecidableEq

def Event.text : Event → String
  | fetch name found => s!"fetch {name} " ++ if found then "ok" else "failed"
  | get name found => s!"get {name} " ++ if found then "hit" else "miss"
  | set name => s!"set {name}"
  | delete name => s!"delete {name}"

structure Store where
  sources : Sources
  cache : Cache
  /-- How often the clock was read. -/
  readings : Nat
  /-- The latest event last. -/
  log : Array Event

namespace Store

def create (sources : Sources) (cache : Cache) : Store where
  sources := sources
  cache := cache
  readings := 0
  log := #[]

def note (store : Store) (event : Event) : Store :=
  { store with log := store.log.push event }

def fetch (store : Store) (name : String) : Except LoadError Source × Store :=
  let answer := store.sources.fetch name
  (answer, store.note (.fetch name answer.isOk))

def get (store : Store) (name : String) : Option Code × Store :=
  let (found, cache) := store.cache.get name
  (found, { store with cache }.note (.get name found.isSome))

def set (store : Store) (name : String) (code : Code) : Except LoadError Unit × Store :=
  match store.cache.set name code with
  | .ok cache => (.ok (), { store with cache }.note (.set name))
  | .error error => (.error error, store.note (.set name))

def delete (store : Store) (name : String) : Store :=
  { store with cache := store.cache.delete name }.note (.delete name)

end Store

end Stencil

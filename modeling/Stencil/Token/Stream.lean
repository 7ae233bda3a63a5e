import Stencil.Token.Scan

/-!
# Token streams

A stream hands out the tokens of a template one after the other, and takes at most one of them
back. Past the end it goes on with end-of-input tokens at the place of the token handed out last.
-/

namespace Stencil.Token

structure Stream where
  rest : List Token
  /-- The token that was taken back or looked at. -/
  pushed : Option Token
  last : Place

namespace Stream

def ofTokens (tokens : List Token) : Stream where
  rest := tokens
  pushed := none
  last := .start

/-- The token at the front, and the stream without it. -/
def take (stream : Stream) : Token × Stream :=
  match stream.pushed with
  | some token => (token, { stream with pushed := none })
  | none =>
      match stream.rest with
      | token :: rest => (token, { stream with rest })
      | [] => (⟨.eof, stream.last, ""⟩, stream)

def next (stream : Stream) : Token × Stream :=
  let (token, stream) := stream.take
  (token, { stream with last := token.place })

def peek (stream : Stream) : Token × Stream :=
  let (token, stream) := stream.take
  (token, { stream with pushed := some token })

def backup (stream : Stream) (token : Token) : Stream :=
  { stream with pushed := some token }

end Stream

/-- An error of the scanner, with the template it is in. -/
structure ScanError where
  template : String
  place : Place
  message : String
deriving Repr, DecidableEq

def ScanError.ofToken (template : String) (token : Token) : ScanError :=
  ⟨template, token.place, token.value⟩

def ScanError.display (error : ScanError) : String :=
  s!"{error.template}:{error.place.line}: {error.message}"

/-- The tokens of a template, unless one of them is an error. -/
def tokenize (dialect : Dialect) (template source : String) : Except ScanError (List Token) :=
  let tokens := scan dialect source
  match tokens.find? (·.kind = .error) with
  | some token => .error (.ofToken template token)
  | none => .ok tokens

end Stencil.Token

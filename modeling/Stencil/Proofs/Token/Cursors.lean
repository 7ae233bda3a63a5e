import Mathlib.Logic.Basic
import Stencil.Proofs.Token.Ending
import Stencil.Token.Stream

/-!
# Streams as cursors

A stream that is read token by token, looked at ahead and given the latest token back is a cursor
over the tokens of the template, behind which stand ends of input without end. It makes no
difference whether the tokens are scanned before the first of them is asked for, or each of them
only when it is.
-/

namespace Stencil.Token

/-! ## Calls -/

/-- What a reader can ask of a stream. -/
inductive Call where
  | next
  | peek
  | backup (token : Token)
deriving Repr, DecidableEq

/-- The answers to calls, one after the other, and the state after the last of them. -/
def run {S : Type} (answer : S → Call → Option Token × S) (state : S) :
    List Call → List (Option Token) × S
  | [] => ([], state)
  | call :: calls =>
      let (token, after) := answer state call
      let (tokens, last) := run answer after calls
      (token :: tokens, last)

/-- States that answer alike, and go on as such, answer all calls alike. -/
theorem run_alike {S T : Type} {answer : S → Call → Option Token × S}
    {answer' : T → Call → Option Token × T} {related : S → T → Prop}
    (alike : ∀ {state state'}, related state state' → ∀ call,
      (answer state call).1 = (answer' state' call).1 ∧
        related (answer state call).2 (answer' state' call).2)
    {state : S} {state' : T} (first : related state state') (calls : List Call) :
    (run answer state calls).1 = (run answer' state' calls).1 := by
  induction calls generalizing state state' with
  | nil => rfl
  | cons call calls ih =>
      obtain ⟨same, further⟩ := alike first call
      exact congrArg₂ _ same (ih further)

/-- What a reader has after a call: it keeps the tokens that are handed out to it, but for those
that it gives back. -/
def keep (held : List Token) : Call × Option Token → List Token
  | (.next, token) => held ++ token.toList
  | (.peek, _) => held
  | (.backup _, _) => held.dropLast

/-- The tokens that a reader has after some calls. -/
def kept (calls : List Call) (answers : List (Option Token)) : List Token :=
  (calls.zip answers).foldl keep []

def Stream.answer (stream : Stream) : Call → Option Token × Stream
  | .next => (some stream.next.1, stream.next.2)
  | .peek => (some stream.peek.1, stream.peek.2)
  | .backup token => (none, stream.backup token)

/-! ## Cursors -/

/-- Where a reader stands among tokens. -/
structure Cursor where
  /-- How many tokens are before the cursor. -/
  position : Nat
  /-- The token that was handed out last. -/
  latest : Option Token
  /-- Whether a token was looked at or given back since. -/
  pushed : Bool

namespace Cursor

def start : Cursor :=
  ⟨0, none, false⟩

/-- The place of the token that was handed out last. -/
def lastPlace (cursor : Cursor) : Place :=
  (cursor.latest.map Token.place).getD .start

/-- The token at the cursor. Behind all tokens it is an end of input at the place of the token that
was handed out last. -/
def token (tokens : List Token) (cursor : Cursor) : Token :=
  tokens[cursor.position]?.getD ⟨.eof, cursor.lastPlace, ""⟩

def answer (tokens : List Token) (cursor : Cursor) : Call → Option Token × Cursor
  | .next => (some (cursor.token tokens), ⟨cursor.position + 1, some (cursor.token tokens), false⟩)
  | .peek => (some (cursor.token tokens), { cursor with pushed := true })
  | .backup _ => (none, { cursor with position := cursor.position - 1, pushed := true })

/-- Only the token that was handed out last may be given back, and only while nothing is pushed. -/
def Allows (cursor : Cursor) : Call → Prop
  | .backup token => cursor.latest = some token ∧ cursor.pushed = false
  | _ => True

instance (cursor : Cursor) : DecidablePred cursor.Allows
  | .backup _ => inferInstanceAs (Decidable (_ ∧ _))
  | .next | .peek => isTrue trivial

/-- Each call is allowed when its turn comes. -/
def AllowsAll (tokens : List Token) (cursor : Cursor) : List Call → Prop
  | [] => True
  | call :: calls => cursor.Allows call ∧ (cursor.answer tokens call).2.AllowsAll tokens calls

instance decidableAllowsAll (tokens : List Token) (cursor : Cursor) :
    DecidablePred (cursor.AllowsAll tokens)
  | [] => isTrue trivial
  | call :: calls =>
      have := decidableAllowsAll tokens (cursor.answer tokens call).2 calls
      inferInstanceAs (Decidable (_ ∧ _))

end Cursor

/-- A list of tokens with ends of input behind it, all at the place of its last token. -/
def endless (tokens : List Token) (position : Nat) : Token :=
  tokens[position]?.getD ⟨.eof, (tokens.getLast?.map Token.place).getD .start, ""⟩

/-- Behind the last token there are only ends of input at its place. -/
theorem place_endless {tokens : List Token} {position : Nat}
    (behind : tokens.length ≤ position + 1) (nonempty : tokens ≠ []) :
    (endless tokens position).place = (tokens.getLast?.map Token.place).getD .start := by
  unfold endless
  rcases Nat.lt_or_ge position tokens.length with inside | outside
  · have last : position = tokens.length - 1 := by omega
    rw [last, ← List.getLast?_eq_getElem?, List.getLast?_eq_some_getLast nonempty]
    rfl
  · rw [List.getElem?_eq_none outside]
    rfl

namespace Cursor

variable {tokens : List Token} {cursor : Cursor} {call : Call}

/-- The token handed out last is the one before the cursor, or after it has been given back the
one at the cursor. -/
def Trails (tokens : List Token) (cursor : Cursor) : Prop :=
  match cursor.latest with
  | none => cursor.position = 0
  | some token => ∃ position, token = endless tokens position ∧
      (cursor.position = position + 1 ∨ cursor.position = position ∧ cursor.pushed = true)

theorem lastPlace_of_trails (trails : cursor.Trails tokens)
    (behind : tokens.length ≤ cursor.position) :
    cursor.lastPlace = (tokens.getLast?.map Token.place).getD .start := by
  unfold Trails at trails
  unfold lastPlace
  cases latest : cursor.latest with
  | none =>
      rw [latest] at trails
      obtain rfl : tokens = [] := List.length_eq_zero_iff.mp (by omega)
      rfl
  | some token =>
      rw [latest] at trails
      obtain ⟨position, rfl, beyond⟩ := trails
      by_cases empty : tokens = []
      · subst empty
        rfl
      · exact place_endless (by omega) empty

theorem token_of_trails (trails : cursor.Trails tokens) :
    cursor.token tokens = endless tokens cursor.position := by
  unfold token endless
  rcases Nat.lt_or_ge cursor.position tokens.length with inside | outside
  · rw [List.getElem?_eq_getElem inside]
    rfl
  · rw [lastPlace_of_trails trails outside]

theorem Trails.answer (trails : cursor.Trails tokens) (allowed : cursor.Allows call) :
    (cursor.answer tokens call).2.Trails tokens := by
  cases call with
  | next => exact ⟨cursor.position, token_of_trails trails, .inl rfl⟩
  | peek =>
      unfold Trails at trails ⊢
      dsimp only [Cursor.answer]
      cases latest : cursor.latest with
      | none => rwa [latest] at trails
      | some token =>
          rw [latest] at trails
          obtain ⟨position, same, there⟩ := trails
          exact ⟨position, same, there.imp_right fun there => ⟨there.1, rfl⟩⟩
  | backup token =>
      obtain ⟨latest, free⟩ := allowed
      unfold Trails at trails ⊢
      dsimp only [Cursor.answer]
      rw [latest] at trails ⊢
      obtain ⟨position, same, there | ⟨-, pushed⟩⟩ := trails
      · exact ⟨position, same, .inr ⟨by omega, rfl⟩⟩
      · rw [free] at pushed
        cases pushed

/-- What a reader keeps are the tokens before the cursor. -/
theorem keep_answer (trails : cursor.Trails tokens) (allowed : cursor.Allows call) :
    keep ((List.range cursor.position).map (endless tokens))
        (call, (cursor.answer tokens call).1) =
      (List.range (cursor.answer tokens call).2.position).map (endless tokens) := by
  cases call with
  | next =>
      simp only [keep, Cursor.answer, token_of_trails trails, Option.toList_some, List.range_succ,
        List.map_append, List.map_singleton]
  | peek => rfl
  | backup token =>
      simp only [keep, Cursor.answer, ← List.map_dropLast]
      cases cursor.position with
      | zero => rfl
      | succ position => rw [List.range_succ, List.dropLast_concat, Nat.add_sub_cancel]

theorem foldl_keep_run (trails : cursor.Trails tokens) {calls : List Call}
    (allowed : cursor.AllowsAll tokens calls) :
    (calls.zip (run (answer tokens) cursor calls).1).foldl keep
        ((List.range cursor.position).map (endless tokens)) =
      (List.range (run (answer tokens) cursor calls).2.position).map (endless tokens) := by
  induction calls generalizing cursor with
  | nil => rfl
  | cons call calls ih =>
      obtain ⟨first, others⟩ := allowed
      simp only [run, List.zip_cons_cons, List.foldl_cons]
      rw [keep_answer trails first]
      exact ih (trails.answer first) others

end Cursor

/-! ## Streams of scanned tokens -/

/-- A stream that is a cursor over tokens: the token that is pushed is the one at the cursor, and
the others are still to come. -/
structure Follows (tokens : List Token) (stream : Stream) (cursor : Cursor) : Prop where
  pushed : stream.pushed = if cursor.pushed then some (cursor.token tokens) else none
  rest : stream.rest = tokens.drop (cursor.position + cursor.pushed.toNat)
  last : stream.last = cursor.lastPlace

namespace Follows

variable {tokens : List Token} {stream : Stream} {cursor : Cursor} {call : Call}

/-- What is taken from the stream is the token at the cursor. -/
theorem take (follows : Follows tokens stream cursor) :
    stream.take = (cursor.token tokens,
      ⟨tokens.drop (cursor.position + 1), none, cursor.lastPlace⟩) := by
  obtain ⟨pushed, rest, last⟩ := follows
  obtain ⟨coming, held, place⟩ := stream
  dsimp only at pushed rest last
  subst pushed rest last
  unfold Stream.take
  cases cursor.pushed with
  | true => rfl
  | false =>
      rw [if_neg Bool.false_ne_true, Bool.toNat_false, Nat.add_zero]
      rcases Nat.lt_or_ge cursor.position tokens.length with inside | outside
      · rw [List.drop_eq_getElem_cons inside, Cursor.token, List.getElem?_eq_getElem inside]
        rfl
      · rw [List.drop_eq_nil_of_le outside, Cursor.token, List.getElem?_eq_none outside,
          List.drop_eq_nil_of_le (by omega)]
        rfl

theorem answer (trails : cursor.Trails tokens) (follows : Follows tokens stream cursor)
    (allowed : cursor.Allows call) :
    (stream.answer call).1 = (cursor.answer tokens call).1 ∧
      Follows tokens (stream.answer call).2 (cursor.answer tokens call).2 := by
  cases call with
  | next =>
      simp only [Stream.answer, Stream.next, follows.take]
      exact ⟨rfl, rfl, rfl, rfl⟩
  | peek =>
      simp only [Stream.answer, Stream.peek, follows.take]
      exact ⟨rfl, rfl, rfl, rfl⟩
  | backup token =>
      have trails' := trails.answer allowed
      have there := Cursor.token_of_trails trails'
      obtain ⟨latest, free⟩ := allowed
      unfold Cursor.Trails at trails
      rw [latest] at trails
      obtain ⟨position, rfl, before | ⟨-, pushed⟩⟩ := trails
      · refine ⟨rfl, congrArg some ?_, ?_, follows.last⟩
        · rw [there]
          simp only [Cursor.answer, before, Nat.add_sub_cancel]
        · have rest := follows.rest
          simp only [Cursor.answer, Stream.answer, Stream.backup, rest, free, before,
            Nat.add_sub_cancel, Bool.toNat_true, Bool.toNat_false, Nat.add_zero]
      · rw [free] at pushed
        cases pushed

theorem run {calls : List Call} (trails : cursor.Trails tokens)
    (follows : Follows tokens stream cursor) (allowed : cursor.AllowsAll tokens calls) :
    (Token.run Stream.answer stream calls).1 =
      (Token.run (Cursor.answer tokens) cursor calls).1 := by
  induction calls generalizing stream cursor with
  | nil => rfl
  | cons call calls ih =>
      obtain ⟨first, others⟩ := allowed
      obtain ⟨same, further⟩ := follows.answer trails first
      exact congrArg₂ _ same (ih (trails.answer first) further others)

end Follows

/-! ## Streams that scan when they are asked -/

/-- A stream that has each token scanned only when it is asked for. -/
structure Tap where
  feed : Feed
  pushed : Option Token
  last : Place

namespace Tap

def start (source : String) : Tap :=
  ⟨.start source, none, .start⟩

def take (dialect : Dialect) (tap : Tap) : Token × Tap :=
  match tap.pushed with
  | some token => (token, { tap with pushed := none })
  | none =>
      match tap.feed.next? dialect with
      | (some token, feed) => (token, { tap with feed })
      | (none, feed) => (⟨.eof, tap.last, ""⟩, { tap with feed })

def answer (dialect : Dialect) (tap : Tap) : Call → Option Token × Tap
  | .next =>
      let (token, after) := tap.take dialect
      (some token, { after with last := token.place })
  | .peek =>
      let (token, after) := tap.take dialect
      (some token, { after with pushed := some token })
  | .backup token => (none, { tap with pushed := some token })

/-- What is still to be drawn are the tokens that a stream has left. -/
structure Shows (dialect : Dialect) (tap : Tap) (stream : Stream) : Prop where
  drawn : ∀ count, tap.feed.drawn dialect count = stream.rest[count]?
  pushed : tap.pushed = stream.pushed
  last : tap.last = stream.last

variable {dialect : Dialect} {tap : Tap} {stream : Stream}

theorem Shows.take (shows : tap.Shows dialect stream) :
    (tap.take dialect).1 = stream.take.1 ∧ (tap.take dialect).2.Shows dialect stream.take.2 := by
  obtain ⟨drawn, pushed, last⟩ := shows
  obtain ⟨feed, held, place⟩ := tap
  obtain ⟨coming, _, _⟩ := stream
  dsimp only at drawn pushed last
  subst pushed last
  unfold Tap.take Stream.take
  cases held with
  | some token => exact ⟨rfl, drawn, rfl, rfl⟩
  | none =>
      have here : (feed.next? dialect).1 = coming[0]? := drawn 0
      have later (count : Nat) : (feed.next? dialect).2.drawn dialect count = coming[count + 1]? :=
        drawn (count + 1)
      generalize feed.next? dialect = step at here later ⊢
      obtain ⟨found, feed⟩ := step
      obtain rfl : found = coming[0]? := here
      cases coming with
      | nil => exact ⟨rfl, later, rfl, rfl⟩
      | cons token tokens => exact ⟨rfl, later, rfl, rfl⟩

theorem Shows.answer (shows : tap.Shows dialect stream) (call : Call) :
    (tap.answer dialect call).1 = (stream.answer call).1 ∧
      (tap.answer dialect call).2.Shows dialect (stream.answer call).2 := by
  obtain ⟨same, drawn, pushed, last⟩ := shows.take
  cases call with
  | next => exact ⟨congrArg some same, drawn, pushed, congrArg Token.place same⟩
  | peek => exact ⟨congrArg some same, drawn, congrArg some same, last⟩
  | backup token => exact ⟨rfl, shows.drawn, rfl, shows.last⟩

end Tap

/-- A stream is read like a cursor over the tokens of its template: each call has the answer that
the cursor gives, and the tokens that were handed out and not given back are the first ones of the
template, each once and in their order, with ends of input behind them. A stream that has each
token scanned only when it is asked for gives the same answers. -/
theorem stream_read_as_cursor (dialect : Dialect) (source : String) (calls : List Call)
    (allowed : Cursor.start.AllowsAll (scan dialect source) calls) :
    let tokens := scan dialect source
    let read := run Stream.answer (.ofTokens tokens) calls
    let moved := run (Cursor.answer tokens) .start calls
    read.1 = moved.1 ∧
      kept calls read.1 = (List.range moved.2.position).map (endless tokens) ∧
      (dialect.symbols = .standard → dialect.closing.toList ≠ [] →
        (run (Tap.answer dialect) (.start source) calls).1 = read.1) := by
  intro tokens read moved
  have trails : Cursor.start.Trails tokens := rfl
  have follows : Follows tokens (.ofTokens tokens) .start := ⟨rfl, rfl, rfl⟩
  have same : read.1 = moved.1 := follows.run trails allowed
  refine ⟨same, ?_, fun usual nonempty => ?_⟩
  · rw [same]
    exact Cursor.foldl_keep_run trails allowed
  · have enough : (Scanner.start source).potential < 2 * source.toList.length + 2 := by
      rw [Scanner.potential_start]
      exact Nat.lt_succ_self _
    have shows : (Tap.start source).Shows dialect (.ofTokens tokens) :=
      ⟨drawn_eq_collect usual nonempty enough, rfl, rfl⟩
    exact run_alike Tap.Shows.answer shows calls

/-- Calls that look ahead and give back, up to the end of a template and behind it. -/
def wandering : List Call :=
  [.peek, .next, .peek, .next, .backup ⟨.ident, ⟨3, 1⟩, "a"⟩, .peek, .next, .next, .next, .next,
    .next, .backup ⟨.eof, ⟨9, 1⟩, ""⟩, .peek, .next, .next]

theorem wandering_read_as_cursor :
    Cursor.start.AllowsAll (scan .standard "[% a b %]") wandering ∧
      Token.value <$> kept wandering
        (run Stream.answer (.ofTokens (scan .standard "[% a b %]")) wandering).1 =
        ["[%", "a", "b", "%]", "", "", ""] ∧
      (run (Tap.answer .standard) (.start "[% a b %]") wandering).1.getLast? =
        some (some ⟨.eof, ⟨9, 1⟩, ""⟩) := by
  have allowed : Cursor.start.AllowsAll (scan .standard "[% a b %]") wandering := by
    decide +kernel
  obtain ⟨same, keeps, lazily⟩ := stream_read_as_cursor .standard "[% a b %]" wandering allowed
  refine ⟨allowed, ?_, ?_⟩
  · rw [keeps]
    decide +kernel
  · rw [lazily rfl (by decide), same]
    decide +kernel

end Stencil.Token

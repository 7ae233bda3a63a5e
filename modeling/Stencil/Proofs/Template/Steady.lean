import Mathlib
import Stencil.Proofs.Template.Ahead

/-!
# Parsing that changes no variables

Reading tokens leaves the variables and the macros of a parse as they are, and so does whatever is
put together from such readings. The tokens that it gets to see are those of the template, and ends
of input; and there are no more of them left behind it than before.
-/

namespace Stencil

namespace Token

/-- One of some tokens, or an end of input. -/
def Among (tokens : List Token) (token : Token) : Prop :=
  token ∈ tokens ∨ token.kind = .eof

/-- Ends of input do not count, since there may be any number of them. -/
def count (token : Token) : Nat :=
  if token.kind = .eof then 0 else 1

theorem count_of_kind {token : Token} {kind : Kind} (same : token.kind = kind)
    (real : kind ≠ .eof) : token.count = 1 := by
  rw [count, if_neg (same ▸ real)]

end Token

namespace Token.Stream

variable {tokens : List Token} {stream : Stream}

/-- What the stream still hands out is among some tokens. -/
structure Draws (tokens : List Token) (stream : Stream) : Prop where
  rest : stream.rest ⊆ tokens
  pushed : ∀ token ∈ stream.pushed, Among tokens token

theorem draws_ofTokens (tokens : List Token) : (ofTokens tokens).Draws tokens :=
  ⟨List.Subset.refl _, nofun⟩

theorem draws_self (stream : Stream) : stream.Draws (stream.rest ++ stream.pushed.toList) where
  rest := List.subset_append_left _ _
  pushed _ pushed := .inl (List.mem_append_right _ (Option.mem_toList.mpr pushed))

namespace Draws

theorem take (draws : stream.Draws tokens) :
    Among tokens stream.take.1 ∧ stream.take.2.Draws tokens := by
  obtain ⟨rest, pushed, last⟩ := stream
  cases pushed with
  | some token => exact ⟨draws.pushed token rfl, draws.rest, nofun⟩
  | none =>
      cases rest with
      | cons token rest =>
          have both := List.cons_subset.mp draws.rest
          exact ⟨.inl both.1, both.2, nofun⟩
      | nil => exact ⟨.inr rfl, draws⟩

theorem next (draws : stream.Draws tokens) :
    Among tokens stream.next.1 ∧ stream.next.2.Draws tokens := by
  obtain ⟨among, rest, pushed⟩ := draws.take
  exact ⟨among, rest, pushed⟩

theorem backup {token : Token} (draws : stream.Draws tokens) (among : Among tokens token) :
    (stream.backup token).Draws tokens := by
  refine ⟨draws.rest, ?_⟩
  rintro _ ⟨⟩
  exact among

theorem peek (draws : stream.Draws tokens) :
    Among tokens stream.peek.1 ∧ stream.peek.2.Draws tokens := by
  obtain ⟨among, further⟩ := draws.take
  exact ⟨among, further.backup among⟩

end Draws

/-- How many tokens the stream still hands out before it only has ends of input. -/
def left (stream : Stream) : Nat :=
  (stream.ahead.map Token.count).sum

theorem left_take (stream : Stream) :
    stream.take.2.left + stream.take.1.count = stream.left := by
  obtain ⟨rest, pushed, last⟩ := stream
  cases pushed with
  | some token => simp [take, left, ahead, Nat.add_comm]
  | none =>
      cases rest with
      | cons token rest => simp [take, left, ahead, Nat.add_comm]
      | nil => simp [take, left, ahead, Token.count]

theorem left_next (stream : Stream) : stream.next.2.left + stream.next.1.count = stream.left :=
  stream.left_take

theorem left_backup_le (stream : Stream) (token : Token) :
    (stream.backup token).left ≤ stream.left + token.count := by
  simp only [left, ahead, backup, Option.toList_some, List.map_append, List.map_cons, List.map_nil,
    List.sum_append, List.sum_cons, List.sum_nil]
  omega

theorem left_peek_le (stream : Stream) : stream.peek.2.left ≤ stream.left :=
  Nat.le_trans (stream.take.2.left_backup_le stream.take.1) (Nat.le_of_eq stream.left_take)

end Token.Stream

namespace Template

variable {α β : Type}

theorem run_bind {first : Parse α} {next : α → Parse β} {settings : Settings} {start after : State}
    {value : β} :
    (first >>= next) settings start = .ok (value, after) ↔
      ∃ found between, first settings start = .ok (found, between) ∧
        next found settings between = .ok (value, after) := by
  show (first settings start >>= fun result => next result.1 settings result.2) = _ ↔ _
  cases first settings start with
  | error problem =>
      constructor
      · intro ran
        cases ran
      · rintro ⟨_, _, failed, _⟩
        cases failed
  | ok result =>
      obtain ⟨found, between⟩ := result
      constructor
      · intro ran
        exact ⟨found, between, rfl, ran⟩
      · rintro ⟨_, _, ⟨⟩, ran⟩
        exact ran

theorem eq_of_checked {settings : Settings} {start after : State} {token found : Token}
    (ran : checked token settings start = .ok (found, after)) : found = token ∧ after = start := by
  unfold checked at ran
  split at ran
  · cases ran
  · cases ran
    exact ⟨rfl, rfl⟩

/-- What a parse stands on: the tokens of the template, the variables and the macros. -/
structure Ground where
  tokens : List Token
  frame : Frame
  macros : List String

structure State.On (ground : Ground) (state : State) : Prop where
  draws : state.stream.Draws ground.tokens
  frame : state.frame = ground.frame
  macros : state.macros = ground.macros

/-- A parse stays on its ground, with no more tokens left than before, and yields something
good. -/
def Steady (ground : Ground) (parse : Parse α) (good : α → Prop) : Prop :=
  ∀ settings start value after, start.On ground → parse settings start = .ok (value, after) →
    after.On ground ∧ after.stream.left ≤ start.stream.left ∧ good value

namespace Steady

variable {ground : Ground} {good : α → Prop} {fine : β → Prop}

theorem pure {value : α} (holds : good value) : Steady ground (Pure.pure value) good := by
  rintro settings start _ _ on ⟨⟩
  exact ⟨on, Nat.le_refl _, holds⟩

theorem bind {first : Parse α} {next : α → Parse β} (begun : Steady ground first good)
    (continued : ∀ value, good value → Steady ground (next value) fine) :
    Steady ground (first >>= next) fine := by
  intro settings start value after on ran
  obtain ⟨found, between, here, further⟩ := run_bind.mp ran
  obtain ⟨on, fewer, holds⟩ := begun settings start found between on here
  obtain ⟨on, fewer', holds⟩ := continued found holds settings between value after on further
  exact ⟨on, Nat.le_trans fewer' fewer, holds⟩

/-- A parse whose value does not matter. -/
theorem andThen {first : Parse α} {next : α → Parse β} (begun : Steady ground first good)
    (continued : ∀ value, Steady ground (next value) fine) : Steady ground (first >>= next) fine :=
  begun.bind fun value _ => continued value

theorem ite {condition : Prop} [Decidable condition] {first second : Parse α}
    (one : condition → Steady ground first good)
    (other : ¬condition → Steady ground second good) :
    Steady ground (if condition then first else second) good := by
  split
  · next holds => exact one holds
  · next fails => exact other fails

theorem mono {parse : Parse α} {fine : α → Prop} (steady : Steady ground parse good)
    (better : ∀ value, good value → fine value) : Steady ground parse fine := by
  intro settings start value after on ran
  obtain ⟨on, fewer, holds⟩ := steady settings start value after on ran
  exact ⟨on, fewer, better value holds⟩

theorem fault (token : Token) (problem : GrammarFault) :
    Steady ground (Template.fault token problem : Parse α) good :=
  fun _ _ _ _ _ ran => nomatch ran

theorem unexpected (token : Token) (what : String) :
    Steady ground (Template.unexpected token what : Parse α) good :=
  fault token _

theorem checked {token : Token} (among : token.Among ground.tokens) :
    Steady ground (checked token) (Token.Among ground.tokens) := by
  unfold Template.checked
  exact ite (fun _ _ _ _ _ _ ran => nomatch ran) fun _ => pure among

theorem reading {read : Token.Stream → Token × Token.Stream} {further : Token → Parse β}
    (drawn : ∀ stream : Token.Stream, stream.Draws ground.tokens →
      (read stream).1.Among ground.tokens ∧ (read stream).2.Draws ground.tokens)
    (fewer : ∀ stream, (read stream).2.left ≤ stream.left)
    (continued : ∀ token : Token, token.Among ground.tokens → Steady ground (further token) fine) :
    Steady ground (do
      let state ← get
      let (token, stream) := read state.stream
      set { state with stream }
      further token) fine := by
  intro settings start value after on ran
  obtain ⟨_, _, ⟨⟩, ran⟩ := run_bind.mp ran
  obtain ⟨_, _, ⟨⟩, ran⟩ := run_bind.mp ran
  obtain ⟨among, draws⟩ := drawn start.stream on.draws
  obtain ⟨on, fewer', holds⟩ := continued _ among settings
    { start with stream := (read start.stream).2 } value after ⟨draws, on.frame, on.macros⟩ ran
  exact ⟨on, Nat.le_trans fewer' (fewer start.stream), holds⟩

theorem nextToken : Steady ground nextToken (Token.Among ground.tokens) :=
  reading (fun _ draws => draws.next) (fun stream => Nat.le.intro stream.left_next) fun _ => checked

theorem peekToken : Steady ground peekToken (Token.Among ground.tokens) :=
  reading (fun _ draws => draws.peek) Token.Stream.left_peek_le fun _ => checked

theorem peekKind : Steady ground peekKind fun _ => True :=
  peekToken.andThen fun _ => pure trivial

theorem accept (kind : Token.Kind) : Steady ground (accept kind) fun _ => True :=
  peekKind.andThen fun _ =>
    ite (fun _ => nextToken.andThen fun _ => pure trivial) fun _ => pure trivial

theorem expect (kind : Token.Kind) (what : String) :
    Steady ground (expect kind what) fun _ => True :=
  nextToken.andThen fun _ => ite (fun _ => pure trivial) fun _ => unexpected _ _

theorem settings : Steady ground (read : Parse Settings) fun _ => True := by
  rintro settings start _ _ on ⟨⟩
  exact ⟨on, Nat.le_refl _, trivial⟩

theorem expectClosing : Steady ground expectClosing fun _ => True :=
  settings.andThen fun _ => (expect _ _).andThen fun _ => pure trivial

theorem expectName (what : String) : Steady ground (expectName what) fun _ => True :=
  (expect _ _).andThen fun _ => pure trivial

theorem tooDeep : Steady ground (tooDeep : Parse α) good :=
  peekToken.andThen fun _ => fault _ _

theorem get : Steady ground get (State.On ground) := by
  rintro settings start _ _ on ⟨⟩
  exact ⟨on, Nat.le_refl _, on⟩

end Steady

end Template

end Stencil

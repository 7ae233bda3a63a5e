import Stencil.Template.Parse

/-!
# Tokens ahead

What a parse does depends on the tokens ahead of it, on the variables and on the macros, but not on
whether the stream already handed out a token and took it back.
-/

namespace Stencil

namespace Token.Stream

/-- The tokens that a stream has in store. -/
def ahead (stream : Stream) : List Token :=
  stream.pushed.toList ++ stream.rest

variable {stream : Stream} {token : Token} {rest : List Token}

theorem take_of_ahead (stands : stream.ahead = token :: rest) :
    stream.take.1 = token ∧ stream.take.2.ahead = rest ∧ stream.take.2.pushed = none := by
  obtain ⟨store, pushed, last⟩ := stream
  cases pushed with
  | some pushed =>
      obtain ⟨rfl, rfl⟩ := List.cons.inj stands
      exact ⟨rfl, rfl, rfl⟩
  | none =>
      have whole : store = token :: rest := stands
      subst whole
      exact ⟨rfl, rfl, rfl⟩

theorem next_of_ahead (stands : stream.ahead = token :: rest) :
    stream.next.1 = token ∧ stream.next.2.ahead = rest :=
  ⟨(take_of_ahead stands).1, (take_of_ahead stands).2.1⟩

theorem peek_of_ahead (stands : stream.ahead = token :: rest) :
    stream.peek.1 = token ∧ stream.peek.2.ahead = token :: rest := by
  obtain ⟨taken, behind, empty⟩ := take_of_ahead stands
  refine ⟨taken, ?_⟩
  have store : stream.take.2.rest = rest := by
    rw [ahead, empty] at behind
    exact behind
  show stream.take.1 :: stream.take.2.rest = token :: rest
  rw [taken, store]

end Token.Stream

namespace Template

variable {α β : Type}

/-- The variables and the macros where a parse stands. -/
structure Situation where
  frame : Frame
  macros : List String

/-- Without variables and macros. -/
def Situation.plain : Situation :=
  ⟨.empty, []⟩

/-- Names stand for variables of the surroundings, as there are no others. -/
theorem resolve_plain (place : Place) (name : String) :
    Situation.plain.frame.resolve place name = .symbol place name := by
  have missed : Situation.plain.frame.lookup? name = none := rfl
  simp only [Frame.resolve, missed]
  split
  · next same => cases same
  · rfl

structure State.Stands (situation : Situation) (tokens : List Token) (state : State) : Prop where
  ahead : state.stream.ahead = tokens
  frame : state.frame = situation.frame
  macros : state.macros = situation.macros

/-- At the start of some tokens. -/
def Situation.start (situation : Situation) (tokens : List Token) : State :=
  ⟨.ofTokens tokens, situation.frame, situation.macros⟩

theorem Situation.stands_start (situation : Situation) (tokens : List Token) :
    (situation.start tokens).Stands situation tokens :=
  ⟨rfl, rfl, rfl⟩

/-- What a parse makes of the tokens ahead and of the situation: a value, another situation, and the
tokens that it leaves. -/
def Takes (settings : Settings) (before : Situation) (tokens : List Token) (parse : Parse α)
    (value : α) (after : Situation) (rest : List Token) : Prop :=
  ∀ start, start.Stands before tokens →
    ∃ stop, parse settings start = .ok (value, stop) ∧ stop.Stands after rest

/-- A fault of the grammar, which is not that the allowance was used up. -/
def Faults (result : Except ParseError α) : Prop :=
  ∃ problem, problem.fault ≠ .tooDeep ∧ result = .error (.grammar problem)

/-- A parse stops with a fault of the grammar. -/
def Refuses (settings : Settings) (before : Situation) (tokens : List Token) (parse : Parse α) :
    Prop :=
  ∀ start, start.Stands before tokens → Faults (parse settings start)

section

variable {settings : Settings} {before between after : Situation} {tokens middle rest : List Token}
  {first : Parse α} {next : α → Parse β} {value : α} {result : β} {token : Token}

theorem bind_eq_of_ok {start stop : State} (ran : first settings start = .ok (value, stop)) :
    (first >>= next) settings start = next value settings stop := by
  show (first settings start >>= fun (found, between) => next found settings between) = _
  rw [ran]
  rfl

theorem bind_eq_of_error {start : State} {problem : ParseError}
    (failed : first settings start = .error problem) :
    (first >>= next) settings start = .error problem := by
  show (first settings start >>= fun (found, between) => next found settings between) = _
  rw [failed]
  rfl

/-! ## Errors of the scanner -/

section

variable {start : State} (failed : token.kind = .error)

include failed

theorem checked_of_error :
    checked token settings start = .error (.scan (.ofToken settings.template token)) := by
  rw [checked, if_pos failed]
  rfl

theorem nextToken_of_error (stands : start.Stands before (token :: rest)) :
    nextToken settings start = .error (.scan (.ofToken settings.template token)) := by
  obtain ⟨taken, -⟩ := Token.Stream.next_of_ahead stands.ahead
  show checked start.stream.next.1 settings _ = _
  rw [taken]
  exact checked_of_error failed

theorem peekToken_of_error (stands : start.Stands before (token :: rest)) :
    peekToken settings start = .error (.scan (.ofToken settings.template token)) := by
  obtain ⟨taken, -⟩ := Token.Stream.peek_of_ahead stands.ahead
  show checked start.stream.peek.1 settings _ = _
  rw [taken]
  exact checked_of_error failed

end

/-! ## What is taken -/

theorem Takes.pure (value : α) : Takes settings before tokens (Pure.pure value) value before tokens :=
  fun start stands => ⟨start, rfl, stands⟩

theorem Takes.bind (begun : Takes settings before tokens first value between middle)
    (continued : Takes settings between middle (next value) result after rest) :
    Takes settings before tokens (first >>= next) result after rest := by
  intro start stands
  obtain ⟨stop, ran, further⟩ := begun start stands
  obtain ⟨last, went, standing⟩ := continued stop further
  exact ⟨last, (bind_eq_of_ok ran).trans went, standing⟩

/-- The first token ahead, unless it is an error of the scanner. -/
theorem Takes.nextToken (sound : token.kind ≠ .error) :
    Takes settings before (token :: rest) nextToken token before rest := by
  intro start stands
  obtain ⟨taken, behind⟩ := Token.Stream.next_of_ahead stands.ahead
  refine ⟨{ start with stream := start.stream.next.2 }, ?_, behind, stands.frame, stands.macros⟩
  show checked start.stream.next.1 settings _ = _
  rw [taken, checked, if_neg sound]
  rfl

/-- A token that is taken and put back is still ahead. -/
theorem nextToken_putBack {further : Parse β} {next : Token → Parse β} {start : State}
    (sound : token.kind ≠ .error) (same : next token = (putBack token >>= fun _ => further))
    (stands : start.Stands before (token :: rest)) :
    ∃ start', start'.Stands before (token :: rest) ∧
      (Template.nextToken >>= next) settings start = further settings start' := by
  obtain ⟨taken, behind, empty⟩ := Token.Stream.take_of_ahead stands.ahead
  have ran : Template.nextToken settings start =
      .ok (token, { start with stream := start.stream.next.2 }) := by
    show checked start.stream.take.1 settings _ = _
    rw [taken, checked, if_neg sound]
    rfl
  have store : start.stream.next.2.rest = rest := by
    have whole : start.stream.take.2.pushed.toList ++ start.stream.take.2.rest = rest := behind
    rwa [empty] at whole
  refine ⟨{ start with stream := start.stream.next.2.backup token },
    ⟨congrArg (token :: ·) store, stands.frame, stands.macros⟩, ?_⟩
  rw [bind_eq_of_ok ran, same]
  rfl

theorem Takes.nextToken_putBack {further : Parse β} {next : Token → Parse β}
    (sound : token.kind ≠ .error) (same : next token = (putBack token >>= fun _ => further))
    (continued : Takes settings before (token :: rest) further result after middle) :
    Takes settings before (token :: rest) (Template.nextToken >>= next) result after middle := by
  intro start stands
  obtain ⟨start', stands', ran⟩ := Template.nextToken_putBack sound same stands
  rw [ran]
  exact continued start' stands'

theorem Takes.peekToken (sound : token.kind ≠ .error) :
    Takes settings before (token :: rest) peekToken token before (token :: rest) := by
  intro start stands
  obtain ⟨taken, behind⟩ := Token.Stream.peek_of_ahead stands.ahead
  refine ⟨{ start with stream := start.stream.peek.2 }, ?_, behind, stands.frame, stands.macros⟩
  show checked start.stream.peek.1 settings _ = _
  rw [taken, checked, if_neg sound]
  rfl

theorem Takes.peekKind (sound : token.kind ≠ .error) :
    Takes settings before (token :: rest) peekKind token.kind before (token :: rest) :=
  (Takes.peekToken sound).bind (.pure token.kind)

theorem Takes.accept {kind : Token.Kind} (sound : token.kind ≠ .error) (same : token.kind = kind) :
    Takes settings before (token :: rest) (accept kind) true before rest := by
  refine (Takes.peekKind sound).bind ?_
  rw [if_pos same]
  exact (Takes.nextToken sound).bind (.pure true)

theorem Takes.decline {kind : Token.Kind} (sound : token.kind ≠ .error) (other : token.kind ≠ kind) :
    Takes settings before (token :: rest) (Template.accept kind) false before (token :: rest) := by
  refine (Takes.peekKind sound).bind ?_
  rw [if_neg other]
  exact .pure false

theorem Takes.expect {kind : Token.Kind} {what : String} (sound : kind ≠ .error)
    (same : token.kind = kind) :
    Takes settings before (token :: rest) (expect kind what) token before rest := by
  refine (Takes.nextToken (by rwa [same])).bind ?_
  rw [if_pos same]
  exact .pure token

theorem Takes.expectName {what : String} (same : token.kind = .ident) :
    Takes settings before (token :: rest) (expectName what) token.value before rest :=
  (Takes.expect (by decide) same).bind (.pure token.value)

/-- What goes on with the state itself. -/
theorem Takes.get {next : State → Parse β}
    (continued : ∀ state, state.Stands before tokens →
      Takes settings before tokens (next state) result after rest) :
    Takes settings before tokens (get >>= next) result after rest :=
  fun start stands => continued start stands start stands

theorem Takes.withFrame (change : Frame → Nat × Frame) :
    Takes settings before tokens (withFrame change) (change before.frame).1
      { before with frame := (change before.frame).2 } tokens := by
  intro start stands
  rw [← stands.frame]
  exact ⟨_, rfl, stands.ahead, rfl, stands.macros⟩

theorem Takes.changeFrame (change : Frame → Frame) :
    Takes settings before tokens
      (modify fun state : State => { state with frame := change state.frame }) ()
      { before with frame := change before.frame } tokens := by
  intro start stands
  rw [← stands.frame]
  exact ⟨_, rfl, stands.ahead, rfl, stands.macros⟩

/-- The macros with one more, if it is new. -/
def withMacro (name : String) (macros : List String) : List String :=
  if macros.contains name then macros else name :: macros

theorem Takes.declareMacro (name : String) :
    Takes settings before tokens (declareMacro name) ()
      { before with macros := withMacro name before.macros } tokens := by
  intro start stands
  refine ⟨if start.macros.contains name then start
    else { start with macros := name :: start.macros }, rfl, ?_⟩
  unfold withMacro
  rw [← stands.macros]
  split
  · exact ⟨stands.ahead, stands.frame, rfl⟩
  · exact ⟨stands.ahead, stands.frame, rfl⟩

theorem Takes.read : Takes settings before tokens read settings before tokens :=
  fun start stands => ⟨start, rfl, stands⟩

theorem Takes.expectClosing (same : token.kind = .tagEnd) :
    Takes settings before (token :: rest) expectClosing () before rest :=
  Takes.read.bind ((Takes.expect (by decide) same).bind (.pure ()))

/-! ## What is refused -/

theorem Refuses.bind (refused : Refuses settings before tokens first) :
    Refuses settings before tokens (first >>= next) := by
  intro start stands
  obtain ⟨problem, real, failed⟩ := refused start stands
  exact ⟨problem, real, bind_eq_of_error failed⟩

/-- Something is taken, and what follows is refused. -/
theorem Takes.refuses (begun : Takes settings before tokens first value between middle)
    (refused : Refuses settings between middle (next value)) :
    Refuses settings before tokens (first >>= next) := by
  intro start stands
  obtain ⟨stop, ran, further⟩ := begun start stands
  obtain ⟨problem, real, failed⟩ := refused stop further
  exact ⟨problem, real, (bind_eq_of_ok ran).trans failed⟩

theorem Refuses.get {next : State → Parse β}
    (refused : ∀ state, state.Stands before tokens → Refuses settings before tokens (next state)) :
    Refuses settings before tokens (get >>= next) :=
  fun start stands => refused start stands start stands

theorem Refuses.fault {problem : GrammarFault} (real : problem ≠ .tooDeep) :
    Refuses settings before tokens (fault token problem : Parse α) :=
  fun _ _ => ⟨_, real, rfl⟩

theorem Refuses.unexpected (what : String) :
    Refuses settings before tokens (unexpected token what : Parse α) :=
  .fault nofun

theorem Refuses.expectClosing (sound : token.kind ≠ .error) (other : token.kind ≠ .tagEnd) :
    Refuses settings before (token :: rest) expectClosing := by
  refine Takes.read.refuses (.bind ((Takes.nextToken sound).refuses ?_))
  rw [if_neg other]
  exact .unexpected _

end

end Template

end Stencil

import Stencil.Proofs.Template.Steady

/-!
# Parsing that changes variables

What is known of the variables and the macros behind a parse, when it starts on certain ground.
-/

namespace Stencil.Template

variable {α β : Type}

/-- A parse that starts on some ground ends with something good, and with the same tokens. -/
def Turns (settings : Settings) (ground : Ground) (parse : Parse α)
    (good : α → Frame → List String → Prop) : Prop :=
  ∀ start value after, start.On ground → parse settings start = .ok (value, after) →
    after.stream.Draws ground.tokens ∧ good value after.frame after.macros

namespace Turns

variable {settings : Settings} {ground : Ground} {good : α → Frame → List String → Prop}
  {fine : β → Frame → List String → Prop}

theorem pure {value : α} (holds : good value ground.frame ground.macros) :
    Turns settings ground (Pure.pure value) good := by
  rintro start _ _ ⟨draws, framed, named⟩ ⟨⟩
  refine ⟨draws, ?_⟩
  rwa [framed, named]

theorem bind {first : Parse α} {next : α → Parse β} (begun : Turns settings ground first good)
    (continued : ∀ value frame macros, good value frame macros →
      Turns settings ⟨ground.tokens, frame, macros⟩ (next value) fine) :
    Turns settings ground (first >>= next) fine := by
  intro start value after on ran
  obtain ⟨found, between, here, further⟩ := run_bind.mp ran
  obtain ⟨draws, holds⟩ := begun start found between on here
  exact continued found _ _ holds between value after ⟨draws, rfl, rfl⟩ further

/-- What changes nothing comes before. -/
theorem steady {first : Parse α} {next : α → Parse β} {clean : α → Prop}
    (begun : Steady ground first clean)
    (continued : ∀ value, clean value → Turns settings ground (next value) fine) :
    Turns settings ground (first >>= next) fine := by
  intro start value after on ran
  obtain ⟨found, between, here, further⟩ := run_bind.mp ran
  obtain ⟨on, _, holds⟩ := begun settings start found between on here
  exact continued found holds between value after on further

theorem putBack {token : Token} {next : Parse β} (among : token.Among ground.tokens)
    (continued : Turns settings ground next fine) :
    Turns settings ground (putBack token >>= fun _ => next) fine := by
  intro start value after on ran
  obtain ⟨_, between, ⟨⟩, further⟩ := run_bind.mp ran
  exact continued { start with stream := start.stream.backup token } value after
    ⟨on.draws.backup among, on.frame, on.macros⟩ further

theorem ite {condition : Prop} [Decidable condition] {first second : Parse α}
    (one : Turns settings ground first good) (other : Turns settings ground second good) :
    Turns settings ground (if condition then first else second) good := by
  split
  · exact one
  · exact other

theorem fault (token : Token) (problem : GrammarFault) :
    Turns settings ground (Template.fault token problem : Parse α) good :=
  fun _ _ _ _ ran => nomatch ran

theorem unexpected (token : Token) (what : String) :
    Turns settings ground (Template.unexpected token what : Parse α) good :=
  fault token _

theorem tooDeep : Turns settings ground (Template.tooDeep : Parse α) good :=
  steady Steady.peekToken fun _ _ => fault _ _

theorem read : Turns settings ground (MonadReader.read : Parse Settings)
    fun value frame macros => value = settings ∧ frame = ground.frame ∧ macros = ground.macros := by
  rintro start _ _ on ⟨⟩
  exact ⟨on.draws, rfl, on.frame, on.macros⟩

theorem get : Turns settings ground (MonadState.get : Parse State)
    fun value frame macros =>
      value.frame = ground.frame ∧ frame = ground.frame ∧ macros = ground.macros := by
  rintro start _ _ on ⟨⟩
  exact ⟨on.draws, on.frame, on.frame, on.macros⟩

theorem withFrame (change : Frame → Nat × Frame) :
    Turns settings ground (withFrame change) fun slot frame macros =>
      slot = (change ground.frame).1 ∧ frame = (change ground.frame).2 ∧
        macros = ground.macros := by
  rintro start _ _ ⟨draws, framed, named⟩ ⟨⟩
  rw [← framed]
  exact ⟨draws, rfl, rfl, named⟩

theorem setFrame (frame' : Frame) :
    Turns settings ground (setFrame frame') fun _ frame macros =>
      frame = frame' ∧ macros = ground.macros := by
  rintro start _ _ on ⟨⟩
  exact ⟨on.draws, rfl, on.macros⟩

theorem modify (change : Frame → Frame) :
    Turns settings ground
      (MonadState.modifyGet fun state => ((), { state with frame := change state.frame }))
      fun _ frame macros => frame = change ground.frame ∧ macros = ground.macros := by
  rintro start _ _ ⟨draws, framed, named⟩ ⟨⟩
  rw [← framed]
  exact ⟨draws, rfl, named⟩

theorem declareMacro (name : String) :
    Turns settings ground (declareMacro name) fun _ frame macros =>
      frame = ground.frame ∧ (∀ other ∈ ground.macros, other ∈ macros) ∧
        ∀ other ∈ macros, other ∈ ground.macros ∨ other = name := by
  rintro start _ _ ⟨draws, framed, named⟩ ⟨⟩
  rw [← framed, ← named]
  dsimp only
  split
  · exact ⟨draws, rfl, fun _ => id, fun _ => .inl⟩
  · exact ⟨draws, rfl, fun _ => .tail _, fun other inside => (List.mem_cons.mp inside).symm⟩

end Turns

end Stencil.Template

import Stencil.Proofs.Template.Steady

/-!
# Parsing with certain macros

A parse that stays on its ground leaves the variables and the macros alone, whatever the tokens are.
-/

namespace Stencil.Template

variable {α : Type}

/-- A parse with certain macros changes neither them nor the variables, and yields something
good. -/
def Still (macros : List String) (parse : Parse α) (good : α → Prop) : Prop :=
  ∀ settings start value after, start.macros = macros → parse settings start = .ok (value, after) →
    after.frame = start.frame ∧ after.macros = macros ∧ good value

namespace Still

variable {macros : List String} {good : α → Prop}

theorem of_steady {parse : Parse α}
    (steady : ∀ ground : Ground, ground.macros = macros → Steady ground parse good) :
    Still macros parse good := by
  intro settings start value after same ran
  have on : start.On ⟨_, start.frame, macros⟩ := ⟨start.stream.draws_self, rfl, same⟩
  obtain ⟨on, _, holds⟩ := steady _ rfl settings start value after on ran
  exact ⟨on.frame, on.macros, holds⟩

theorem nextToken : Still macros nextToken fun _ => True :=
  of_steady fun _ _ => Steady.nextToken.mono fun _ _ => trivial

theorem peekKind : Still macros peekKind fun _ => True :=
  of_steady fun _ _ => .peekKind

theorem putBack (token : Token) : Still macros (putBack token) fun _ => True := by
  rintro settings start _ _ same ⟨⟩
  exact ⟨rfl, same, trivial⟩

theorem expect (kind : Token.Kind) (what : String) :
    Still macros (expect kind what) fun _ => True :=
  of_steady fun _ _ => .expect kind what

theorem expectClosing : Still macros expectClosing fun _ => True :=
  of_steady fun _ _ => .expectClosing

theorem expectName (what : String) : Still macros (expectName what) fun _ => True :=
  of_steady fun _ _ => .expectName what

end Still

end Stencil.Template

import Stencil.Failure
import Stencil.Library
import Stencil.Proofs.Results
import Stencil.Proofs.Value.Harmless

/-!
# Honest answers

Only the machine knows its place in the code. A library is honest if none of its functions and
methods claims that the code was left; the built-in ones never do, and what the machine asks an
honest library gets an honest answer.
-/

namespace Stencil

/-- Faults that say that the code was left. -/
def Fault.strays : Fault → Bool
  | .outOfCode _ | .jumpLeavesCode .. => true
  | _ => false

def Failure.strays : Failure → Bool
  | .run error => error.fault.strays
  | _ => false

/-- A computation that never says that the code was left. -/
def Honest {α : Type} (result : Except Fault α) : Prop :=
  ∀ fault, result = .error fault → fault.strays = false

section

variable {α β : Type}

theorem honest_ok (value : α) : Honest (.ok value : Except Fault α) :=
  nofun

theorem honest_error {fault : Fault} (plain : fault.strays = false) :
    Honest (.error fault : Except Fault α) := by
  rintro _ ⟨⟩
  exact plain

theorem Honest.bind {first : Except Fault α} {next : α → Except Fault β} (honest : Honest first)
    (further : ∀ value, first = .ok value → Honest (next value)) :
    Honest (do next (← first)) := by
  cases first with
  | error fault => exact honest_error (honest fault rfl)
  | ok value => exact further value rfl

end

namespace Value

theorem honest_length (value : Value) : Honest value.length := by
  unfold length
  split <;> first | exact honest_ok _ | exact honest_error rfl

theorem honest_reverse (value : Value) : Honest value.reverse := by
  unfold reverse
  split <;> first | exact honest_ok _ | exact honest_error rfl

theorem honest_join (separator : String) (value : Value) : Honest (value.join separator) := by
  unfold join
  split
  · exact honest_ok _
  · exact honest_error rfl

theorem honest_div (left right : Value) : Honest (left.div right) := by
  unfold div
  dsimp only
  split
  · exact honest_error rfl
  · split
    · split
      · exact honest_ok _
      · exact honest_ok _
    · exact honest_ok _

theorem honest_rem (left right : Value) : Honest (left.rem right) := by
  unfold rem
  dsimp only
  split
  · exact honest_error rfl
  · split
    · exact honest_ok _
    · exact honest_ok _

theorem honest_method? {value : Value} {name : String} {arguments : List Value} {answer : Answer}
    (found : value.method? name arguments = some answer) : Honest answer := by
  revert found
  fun_cases method? value name arguments
  all_goals rintro ⟨⟩
  case case1 | case2 | case3 | case4 | case5 | case6 | case7 | case8 => exact honest_length _
  case case21 | case22 => exact honest_join _ _
  case case23 | case24 | case25 => exact honest_reverse _
  all_goals exact honest_ok _

end Value

namespace Function

theorem honest_unary {name : String} {apply : Value → Answer}
    (honest : ∀ value, Honest (apply value)) (arguments : List Value) :
    Honest (unary name apply arguments) := by
  unfold unary
  split
  · exact honest _
  · exact honest_error rfl

theorem honest_binary {name : String} {apply : Value → Value → Answer}
    (honest : ∀ first second, Honest (apply first second)) (arguments : List Value) :
    Honest (binary name apply arguments) := by
  unfold binary
  split
  · exact honest _ _
  · exact honest_error rfl

theorem honest_joinAll (arguments : List Value) : Honest (joinAll arguments) := by
  unfold joinAll
  split
  · exact Value.honest_join _ _
  · exact Value.honest_join _ _
  · exact honest_error rfl

theorem honest_builtin? {name : String} {function : List Value → Answer}
    (found : builtin? name = some function) (arguments : List Value) :
    Honest (function arguments) := by
  unfold builtin? at found
  split at found
  -- the functions that may fail by themselves, then those that fail by their arguments only
  case h_4 => cases found; exact honest_unary Value.honest_length arguments
  case h_5 => cases found; exact honest_unary Value.honest_reverse arguments
  case h_6 => cases found; exact honest_joinAll arguments
  case h_8 => cases found; exact honest_binary (fun _ _ => honest_ok _) arguments
  case h_11 => cases found
  all_goals
    cases found
    exact honest_unary (fun _ => honest_ok _) arguments

end Function

/-! ## Libraries -/

/-- A library whose functions and methods never say that the code was left. -/
structure Library.Honest (library : Library) : Prop where
  functions : ∀ name, ∀ function ∈ library.functions name, ∀ arguments,
    Stencil.Honest (function arguments)
  methods : ∀ className name arguments,
    ∀ answer ∈ (library.classes className).method name arguments, Stencil.Honest answer

theorem Object.honest_method? {library : Library} (honest : library.Honest) {object : Object}
    {name : String} {arguments : List Value} {answer : Answer}
    (found : object.method? library.classes name arguments = some answer) : Honest answer := by
  have own (name : String) (found : object.ownMethod? library.classes name arguments = some answer) :
      Honest answer := by
    unfold ownMethod? at found
    split at found
    · cases found
    · obtain ⟨value, _, rfl⟩ := Option.map_eq_some_iff.mp found
      exact honest_ok _
    · cases found
    · exact honest.methods _ name arguments answer found
  obtain found | ⟨_, found⟩ := Option.or_eq_some_iff.mp found
  · exact own name found
  · obtain ⟨raised, _, found⟩ := Option.bind_eq_some_iff.mp found
    exact own raised found

namespace Library

variable {library : Library}

theorem honest_builtins : builtins.Honest :=
  ⟨fun _ _ found arguments => Function.honest_builtin? found arguments, nofun⟩

theorem honest_call (honest : library.Honest) (name : String) (arguments : List Value) :
    Stencil.Honest (library.call name arguments) := by
  unfold call
  split
  · next function found => exact honest.functions name function found arguments
  · exact honest_error rfl

theorem honest_callMethod (honest : library.Honest) (value : Value) (name : String)
    (arguments : List Value) : Stencil.Honest (library.callMethod value name arguments) := by
  unfold callMethod
  split
  · next answer found => exact Value.honest_method? found
  · dsimp only
    split
    · next answer found =>
        split at found
        · exact Object.honest_method? honest found
        · cases found
    · split
      · next function found => exact honest.functions name function found _
      · exact honest_error rfl

theorem honest_fetchField (library : Library) (value : Value) (name : String) :
    Stencil.Honest (library.fetchField value name) := by
  unfold fetchField
  split
  · exact honest_ok _
  · exact honest_ok _
  · exact honest_ok _
  · cases found : value.method? name [] with
    | none => exact honest_ok _
    | some answer => exact Value.honest_method? found

end Library

end Stencil

import Stencil.Proofs.Compilation.Expressions
import Stencil.Proofs.Compilation.Pages

/-!
# Calls in three forms

A function of the library can be called as a filter, as a function and as a method. With the
functions that need no registration the three forms come to the same answer, unless they are called
on an object, whose class may have a method of that name.
-/

namespace Stencil

/-! ## Methods and functions -/

theorem Function.isSome_builtin? : ∀ name ∈ ["upper", "lower", "trim", "length", "reverse", "join",
    "abs", "default", "html", "uri"], (builtin? name).isSome = true := by
  decide

namespace Library

section

variable {library : Library} {name : String} {function : List Value → Answer}
  (standard : library.functions = Function.builtin?)
  (known : Function.builtin? name = some function)

include known

/-- A method of texts, lists or maps that has the name of a function does what that does. -/
theorem eq_of_method? {value : Value} {arguments : List Value} {answer : Answer}
    (method : value.method? name arguments = some answer) :
    answer = function (value :: arguments) := by
  unfold Value.method? at method
  split at method
  -- There is no function with the name of the other methods.
  all_goals cases method <;> cases known
  all_goals rfl

include standard

theorem call_standard (arguments : List Value) :
    library.call name arguments = function arguments := by
  simp only [call, standard, known]

/-- A method of a value other than an object is the function of that name, if there is one. -/
theorem callMethod_standard {value : Value}
    (plain : ∀ identity object, value ≠ .object identity object) (arguments : List Value) :
    library.callMethod value name arguments = library.call name (value :: arguments) := by
  rw [call_standard standard known]
  unfold callMethod
  split
  · next answer method => exact eq_of_method? known method
  · cases value with
    | object identity object => exact absurd rfl (plain identity object)
    | _ => simp only [standard, known]

/-- A filter is the function of that name, if there is one, whether it has an instruction of its
own or not. -/
theorem applyFilter_standard (value : Value) :
    Meaning.applyFilter library name value = library.call name [value] := by
  unfold Meaning.applyFilter
  split
  · rw [call_standard standard known]
    cases known
    rfl
  · rw [call_standard standard known]
    cases known
    rfl
  · cases known
  · rfl

end

end Library

/-! ## Pages of one expression -/

namespace Machine

open Meaning (answered)
open Template (Expression)
open Token (Name)

variable {σ : Type}

/-- The value of a name that nothing is bound to but what the environment gives. -/
def Environment.given (environment : Environment σ) (name : Name) : Value :=
  (Dictionary.find? environment.«variables» (Expression.text name)).getD .nil

/-- What a page of one expression comes to, whatever it is compiled with: a run that is about to
print the value and to end, or one that fails for the fault in the page itself. -/
def Comes (environment : Environment σ) (store : σ) (source : String) (answer : Answer) : Prop :=
  ∀ (optimize : Bool) (now : Time) (name : String), ∃ code,
    compileSource .standard optimize now name source = .ok code ∧
      match answer with
      | .ok value => ∃ count state,
          runFor environment count (start code store) = .running state ∧
            state.accumulator = value ∧
            state.current.ops.toList.drop state.current.ip = [.print, .halt]
      | .error fault => ∃ count state,
          runFor environment count (start code store) = .failed (.run ⟨fault, [name]⟩) state

/-- The scene of a template that runs by itself. -/
def Scene.alone (environment : Environment σ) (code : Code) : Scene σ σ where
  surroundings := ⟨environment.library, environment.limits, none, environment.«variables»⟩
  loader := environment.loader
  related := Eq
  rounds := 0
  definitions _ := none
  activation := ⟨.start code.name, code, code.ops.toArray, 0, 0, none⟩
  callers := []
  below := []
  depth := 0

/-- A page comes to the answer that the code of its expression computes. -/
theorem comes_of_computes {environment : Environment σ} {expression : Expression}
    {ops : List Op} {spared : Bool} {answer : Answer}
    (generated : Generate.expression expression.node = .ok ops) (straight : Straight ops)
    (computes : ∀ code, (Scene.alone environment code).Computes spared ops
      (answered (Scene.alone environment code).context answer)) (store : σ) :
    Comes environment store expression.printed answer := by
  intro optimize now name
  refine ⟨_, compile_printed generated straight optimize now name, ?_⟩
  let scene := Scene.alone environment (printing name now ops)
  have laid : scene.Laid (fun _ => True) 0 ops (0 + ops.length) :=
    @Scene.laid_of_toList _ _ scene _ [] ops [.print, .halt] 0 rfl (by simp) rfl straight.narrow
      fun _ _ _ _ _ => trivial
  have follows := @computes (printing name now ops) (fun _ => True) (fun _ _ => trivial)
    ⟨.output, [], [], 0, .nil, .nil⟩ ⟨[], "", 0, #[], store⟩ store _ laid rfl
  cases answer with
  | ok value =>
      obtain ⟨count, _, path, second, store', rfl, -, -⟩ := follows
      refine ⟨count, _, path.runFor_eq 0, rfl, ?_⟩
      show (ops ++ [Op.print, .halt]).drop (0 + ops.length) = _
      rw [Nat.zero_add, List.drop_left]
  | error fault =>
      obtain ⟨count, _, after, path, -, -, stepped, -⟩ := follows
      exact ⟨count + 1 + 0, after, path.runFor_ended stepped 0⟩

/-! ## Calls on a name -/

/-- Code that pushes the values of names. -/
def fetching (names : List Name) : List Op :=
  names.flatMap fun name => [.fetchSymbol (Expression.text name), .push]

theorem pushed_symbols (names : List Name) :
    Generate.pushed (Expression.nodes (names.map .symbol)) = .ok (fetching names) := by
  induction names with
  | nil => rfl
  | cons first rest ih =>
      rw [List.map_cons, Expression.nodes, Generate.pushed, ih]
      rfl

theorem straight_fetching (names : List Name) : Straight (fetching names) := by
  intro op inside
  obtain ⟨name, -, here⟩ := List.mem_flatMap.mp inside
  obtain rfl | rfl := List.mem_pair.mp here
  · exact ⟨rfl, rfl⟩
  · exact ⟨rfl, rfl⟩

section

variable {environment : Environment σ} {code : Code}

theorem computes_name (name : Name) :
    (Scene.alone environment code).Computes true [.fetchSymbol (Expression.text name)]
      (pure (environment.given name)) :=
  Scene.computes_symbol (Expression.text name)

theorem pushes_names (names : List Name) :
    (Scene.alone environment code).Pushes (fetching names)
      (pure (names.map environment.given)) := by
  induction names with
  | nil => exact Scene.pushes_nil
  | cons first rest ih => exact (computes_name first).pushes ih

end

/-! ## The three forms -/

theorem straight_filterOp (name : String) : Straight [Generate.filterOp name] := by
  unfold Generate.filterOp
  split
  all_goals exact straight_single rfl rfl

section

variable (environment : Environment σ) (store : σ) (v f : Name)

theorem comes_filter : Comes environment store (Expression.filter (.symbol v) f).printed
    (Meaning.applyFilter environment.library (Expression.text f) (environment.given v)) := by
  have straight : Straight ([Op.fetchSymbol (Expression.text v)] ++
      [Generate.filterOp (Expression.text f)]) :=
    (straight_single rfl rfl).append (straight_filterOp _)
  exact comes_of_computes rfl straight
    (fun _ => (computes_name v).then (Scene.answers_filter (Expression.text f))) store

theorem comes_functionCall (arguments : List Name) :
    Comes environment store (Expression.functionCall f (arguments.map .symbol)).printed
      (environment.library.call (Expression.text f) (arguments.map environment.given)) := by
  have generated : Generate.expression (Expression.functionCall f (arguments.map .symbol)).node =
      .ok ([Op.pushMark] ++ fetching arguments ++ [Op.callFunction (Expression.text f)]) := by
    rw [Expression.node, Generate.expression, pushed_symbols]
    rfl
  have straight : Straight
      ([Op.pushMark] ++ fetching arguments ++ [Op.callFunction (Expression.text f)]) :=
    ((straight_single rfl rfl).append (straight_fetching arguments)).append (straight_single rfl rfl)
  exact comes_of_computes generated straight
    (fun _ => (pushes_names arguments).collect rfl rfl fun _ => id) store

/-- Code that calls a method of what other code computes, with the values of names. -/
def methodOps (ops : List Op) (name : String) (arguments : List Name) : List Op :=
  [Op.pushMark] ++ ops ++ [Op.push] ++ fetching arguments ++ [Op.callMethod name]

theorem straight_methodOps {ops : List Op} (straight : Straight ops) (name : String)
    (arguments : List Name) : Straight (methodOps ops name arguments) :=
  ((((straight_single rfl rfl).append straight).append (straight_single rfl rfl)).append
    (straight_fetching _)).append (straight_single rfl rfl)

theorem comes_methodCall (arguments : List Name) :
    Comes environment store (Expression.methodCall (.symbol v) f (arguments.map .symbol)).printed
      (environment.library.callMethod (environment.given v) (Expression.text f)
        (arguments.map environment.given)) := by
  have generated : Generate.expression
      (Expression.methodCall (.symbol v) f (arguments.map .symbol)).node =
        .ok (methodOps [Op.fetchSymbol (Expression.text v)] (Expression.text f) arguments) := by
    rw [Expression.node, Generate.expression, pushed_symbols]
    rfl
  exact comes_of_computes generated (straight_methodOps (straight_single rfl rfl) _ _)
    (fun _ => (pushes_names arguments).callMethod (computes_name v) (Expression.text f)) store

end

/-- With the functions that need no registration, whatever classes there are: a function comes to
the same answer on the value of a name, unless that is an object, where it is called as a filter, as
a function and as a method, and where it is called as a function and as a method with more
arguments. -/
theorem call_forms_agree (environment : Environment σ)
    (standard : environment.library.functions = Function.builtin?) (store : σ) (v f : Name)
    (known : Expression.text f ∈ ["upper", "lower", "trim", "length", "reverse", "join", "abs",
      "default", "html", "uri"])
    (plain : ∀ identity object, environment.given v ≠ .object identity object) :
    Comes environment store (Expression.filter (.symbol v) f).printed
      (environment.library.call (Expression.text f) [environment.given v]) ∧
    ∀ arguments : List Name,
      let answer := environment.library.call (Expression.text f)
        (environment.given v :: arguments.map environment.given)
      Comes environment store
        (Expression.functionCall f (.symbol v :: arguments.map .symbol)).printed answer ∧
      Comes environment store
        (Expression.methodCall (.symbol v) f (arguments.map .symbol)).printed answer := by
  obtain ⟨function, known⟩ := Option.isSome_iff_exists.mp (Function.isSome_builtin? _ known)
  have filtered := comes_filter environment store v f
  rw [Library.applyFilter_standard standard known] at filtered
  refine ⟨filtered, fun arguments => ⟨?_, ?_⟩⟩
  · exact comes_functionCall environment store f (v :: arguments)
  · have called := comes_methodCall environment store v f arguments
    rwa [Library.callMethod_standard standard known plain] at called

def nameV : Name :=
  .small 'v' [] rfl (by decide +kernel)

def nameS : Name :=
  .small 's' [] rfl (by decide +kernel)

def nameJoin : Name :=
  .small 'j' ['o', 'i', 'n'] rfl (by decide +kernel)

def nested : Environment Unit :=
  ⟨.builtins, .standard, none, [("s", .text "-"), ("v", .list [.int 1, .list [.text "a"], .nil])]⟩

theorem nested_forms_agree :
    nested.library.functions = Function.builtin? ∧
      Expression.text nameJoin ∈ ["upper", "lower", "trim", "length", "reverse", "join", "abs",
        "default", "html", "uri"] ∧
      (∀ identity object, nested.given nameV ≠ .object identity object) ∧
      Comes nested () "[% v | join %]" (.ok (.text "1[a]")) ∧
      Comes nested () "[% join ( v , s ) %]" (.ok (.text "1-[a]-")) ∧
      Comes nested () "[% v . join ( s ) %]" (.ok (.text "1-[a]-")) := by
  have known : Expression.text nameJoin ∈ ["upper", "lower", "trim", "length", "reverse", "join",
      "abs", "default", "html", "uri"] := by decide
  have plain (identity : Identity) (object : Object) :
      nested.given nameV ≠ .object identity object := by
    have given : nested.given nameV = .list [.int 1, .list [.text "a"], .nil] := rfl
    rw [given]
    simp
  obtain ⟨filtered, called⟩ := call_forms_agree nested rfl () nameV nameJoin known plain
  obtain ⟨function, method⟩ := called [nameS]
  exact ⟨rfl, known, plain, filtered, function, method⟩

end Machine

end Stencil

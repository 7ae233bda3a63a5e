import Stencil.Proofs.Compilation.Carrying
import Stencil.Proofs.Compilation.Compounds

/-!
# Texts that are handed on are printed

Wherever a compiled statement prints what became of an escaped text along a chain of links, the
machine writes this and goes on behind the statement. Whether everything in it has been escaped just
once can be seen from the chain.
-/

namespace Stencil.Machine

open Meaning (Hands Surroundings)
open Text.Html (Special escape)

variable {σ : Type}

/-- Where the trees of texts are rendered. -/
def surroundingsWith (library : Library) (limits : Limits) (texts : Option (Texts σ))
    (given : Dictionary Value) : Surroundings σ :=
  ⟨library, limits, texts.map treesOf, given⟩

/-- A state further on with more text. The registers and the store may be others too. -/
def State.past (state : State σ) (text : String) (length : Nat) (accumulator second : Value)
    (store : σ) : State σ :=
  { state.write text with
    current := { state.current with ip := state.current.ip + length }
    accumulator, second, store }

namespace Scene

/-- The scene around a state in surroundings that are known. -/
def amid (surroundings : Surroundings σ) (loader : Option (Loader σ)) (template : Template)
    (state : State σ) : Scene σ σ where
  surroundings := surroundings
  loader := loader
  related := Eq
  rounds := 0
  definitions name := Meaning.definition? name template.nodes
  activation := state.current
  callers := state.callers
  below := state.slots.take state.current.base
  depth := state.depth

variable {surroundings : Surroundings σ} {loader : Option (Loader σ)} {template : Template}
  {state : State σ} (within : state.current.base ≤ state.slots.length)

include within

theorem state_amid : (amid surroundings loader template state).state state.pose state.world
    state.store = state :=
  state_eq _ rfl rfl rfl rfl within

theorem state_amid_past (text : String) (length : Nat) (accumulator second : Value)
    (store store' : σ) :
    (amid surroundings loader template state).state
        { state.pose with ip := state.current.ip + length, accumulator, second }
        { state.world with written := state.world.written ++ text, store } store' =
      state.past text length accumulator second store' := by
  have base : (state.slots.take state.current.base).length = state.current.base :=
    List.length_take_of_le within
  unfold Scene.state amid State.world State.pose State.sink State.locals
  dsimp only
  rw [base, List.take_append_drop]
  obtain ⟨_, _, operands, marks, slots, current, callers, captures, depth, made, output, warnings,
    _⟩ := state
  cases captures with
  | nil => rfl
  | cons first outer => rfl

end Scene

theorem loads_with (optimize : Bool) (texts : Option (Texts σ)) :
    Loads Built Eq (texts.map treesOf) (texts.map (loaderOf optimize)) := by
  match texts, optimize with
  | none, _ => trivial
  | some texts, true => exact loads_of_texts_optimize texts
  | some texts, false => exact (loads_of_texts texts).mono fun _ _ => Compiled.built

theorem compiling_with (optimize : Bool) (texts : Option (Texts σ)) :
    ∀ load ∈ texts.map (loaderOf optimize), Compiling (fun _ => True) (fun _ => True) load := by
  intro load present
  obtain ⟨texts, _, rfl⟩ := Option.map_eq_some_iff.mp present
  exact compiling_of_texts optimize texts fun _ _ _ _ _ => trivial

/-- With the built-in filters, a statement that hands an escaped text on prints what became of it,
and changes nothing else but the registers and the store, wherever in a page it stands and in
whatever state the machine comes to it. All of the text, as the chain has trimmed it and joined it
to others, is escaped just once if and only if each link of the chain keeps its mark, or nothing in
it has an entity. -/
theorem handed_printed {optimize : Bool} {library : Library} {limits : Limits}
    {texts : Option (Texts σ)} {given : Dictionary Value} {text : Text} {name : String}
    {code : Code} {store : σ} {count : Nat} {state : State σ} {template : Template} {node : Node}
    {part : List Op} {value : Value} {chain : List Link}
    (standard : library.Standard) (compiled : text.compile optimize name = .ok code)
    (reached : runFor (environmentWith optimize library limits texts given) count
      (start code store) = .running state)
    (source : FromText (fun _ => True) template state.current.code)
    (inside : node ∈ template.walk) (has : node.HasCode part)
    (lies : part <+: state.current.ops.toList.drop state.current.ip)
    (hands : Hands (surroundingsWith library limits texts given) .printing
      (limits.maxDepth - state.depth) (state.context template) state.locals
      value.escapeHtml chain node) :
    (∃ steps accumulator second store,
      Path (environmentWith optimize library limits texts given)
        (Within state.callers.length state.current.ip (state.current.ip + part.length)) steps state
        (state.past (value.escapeHtml.along chain).printed part.length accumulator second store)) ∧
    ((value.escapeHtml.along chain).printed = escape (Text.along value.display chain) ↔
      (∀ link ∈ chain, link.Keeps) ∨ ¬ Special (Text.along value.display chain).toList) := by
  refine ⟨?_, value.printed_along_iff chain⟩
  let environment := environmentWith optimize library limits texts given
  let surroundings := surroundingsWith library limits texts given
  let scene := Scene.amid surroundings environment.loader template state
  obtain ⟨first, source'⟩ :=
    @fromText_of_compile (fun _ => True) _ _ _ _ trivial compiled
  have compiling := compiling_with optimize texts
  have path := path_of_runFor reached
  have stems : Stems environment (fun _ => True) (fun _ => True) state :=
    (stems_start source' trivial).path compiling path
  have sound := sound_of_path compiling source' trivial path
  have within : state.current.ip < state.current.ops.toList.length := by
    by_contra outside
    refine sound ?_
    rw [Broken, Array.getElem?_eq_none (Nat.not_lt.mp outside)]
    trivial
  obtain ⟨plain, generated, fused⟩ := has.generated
  have loads := loads_with optimize texts
  have ready : scene.Ready (Scene.calleesWithin surroundings 0 (limits.maxDepth - state.depth))
      template :=
    ⟨@Scene.serves_calleesWithin _ _ _ scene loads (Nat.add_sub_cancel' stems.room),
      ⟨source.built, rfl⟩, loads⟩
  have performs := Scene.performs_statement ready generated fused fun inner below =>
    source.built.body.sound inner (Node.closed_walkAll template.nodes node inside inner below)
  have laid := laid_in_scene stems source.built
    (fused.haltless (Generate.haltless_statement generated)) lies within
    (show scene.activation = state.current from rfl) rfl
  have follows := @performs _ (fun _ deeper => .inl deeper) state.pose state.world state.store _
    laid rfl
  obtain ⟨after, acted⟩ := hands.does standard value.textual_escapeHtml 0 state.world rfl
  rw [show Meaning.statement scene.surroundings _ scene.context scene.rounds node state.world = _
    from acted, Scene.state_amid stems.stacked.1] at follows
  obtain ⟨steps, _, path, accumulator, second, store', rfl, _⟩ := follows
  rw [Scene.state_amid_past stems.stacked.1] at path
  exact ⟨steps, accumulator, second, store', path⟩

/-- A text has the code of its tree. -/
theorem fromText_of_tree {text : Text} {name : String} {template : Template}
    (found : text.tree name = .ok template) :
    ∃ code, text.compile true name = .ok code ∧ FromText (fun _ => True) template code := by
  obtain ⟨failure, failed, -⟩ | ⟨_, code, _, made, -⟩ := text.tree_compile_optimize name
  · rw [found] at failed
    cases failed
  · rw [Text.tree] at found
    simp only [bind_eq_ok, mapError_eq_ok] at found
    obtain ⟨_, parsed, _, _, returned⟩ := found
    cases returned
    exact ⟨code, made, text, true, name, trivial, parsed, made⟩

/-- A page that passes an escaped text to a macro, and from there trimmed to another page. -/
def parcel : Text where
  dialect := .standard
  now := ⟨0⟩
  content := "[% MACRO em(x) BLOCK %][% INCLUDE 'slip' WITH y = x | trim %][% END %]" ++
    "[% em(v | html) %]"

def slip : Text where
  dialect := .standard
  now := ⟨0⟩
  content := "[% [y].last() %]"

def slips : Texts Unit := fun name store =>
  if name = "slip" then (.ok slip, store) else (.error (.load (.notFound name)), store)

def slipping : Environment Unit :=
  environmentWith true .builtins .standard (some slips) [("v", .text " <b> ")]

/-- Whether a page prints the last item of a list of one variable, and nothing else. -/
def printsLast : Except Failure Template → Bool
  | .ok ⟨_, [.print _ (.methodCall _ (.list _ [.symbol _ "y"]) "last" [])]⟩ => true
  | _ => false

theorem exists_of_printsLast {page : Except Failure Template} (prints : printsLast page = true) :
    ∃ name p₁ p₂ p₃ p₄, page =
      .ok ⟨name, [.print p₁ (.methodCall p₂ (.list p₃ [.symbol p₄ "y"]) "last" [])]⟩ := by
  unfold printsLast at prints
  split at prints
  · exact ⟨_, _, _, _, _, rfl⟩
  · cases prints

/-- Whether a page has a macro that includes another page with its trimmed parameter, and prints
what the macro makes of an escaped variable. -/
def passesOn : Except Failure Template → Bool
  | .ok ⟨_, [.macroDef _ "em" ["x"] [.inclusion _ (.string _ "slip")
      [("y", .filter _ (.localVar _ "x" 0) "trim")]],
      .print _ (.macroCall _ "em" [.filter _ (.symbol _ "v") "html"])]⟩ => true
  | _ => false

theorem exists_of_passesOn {page : Except Failure Template} (passes : passesOn page = true) :
    ∃ name p₁ p₂ p₃ p₄ p₅ p₆ p₇ p₈ p₉, page =
      .ok ⟨name, [.macroDef p₁ "em" ["x"] [.inclusion p₂ (.string p₃ "slip")
          [("y", .filter p₄ (.localVar p₅ "x" 0) "trim")]],
        .print p₆ (.macroCall p₇ "em" [.filter p₈ (.symbol p₉ "v") "html"])]⟩ := by
  unfold passesOn at passes
  split at passes
  · exact ⟨_, _, _, _, _, _, _, _, _, _, rfl⟩
  · cases passes

/-- The other page is found, and consists of one print. -/
theorem finds_slip (library : Library) (limits : Limits) (given : Dictionary Value) :
    ∃ tree p₁ p₂ p₃ p₄,
      Meaning.Finds (surroundingsWith library limits (some slips) given) "slip" tree
        (.print p₁ (.methodCall p₂ (.list p₃ [.symbol p₄ "y"]) "last" [])) := by
  have printed : printsLast (slip.tree "slip") = true := by decide +kernel
  obtain ⟨_, _, _, _, _, found⟩ := exists_of_printsLast printed
  have finds (store : Unit) : ∃ after, treesOf slips "slip" store = (.ok _, after) :=
    ⟨store, congrArg (·, store) found⟩
  exact ⟨_, _, _, _, _, _, rfl, finds, [], rfl, nofun⟩

/-- The code of a page with one macro and one print is that of the print. -/
theorem generated_of_emits {place place' : Place} {name : String} {parameters : List String}
    {body : List Node} {operand : Node} {plain : List Op}
    (emits : Emits [.macroDef place name parameters body, .print place' operand] plain) :
    Generate.statement (.print place' operand) = .ok plain := by
  cases emits with
  | emitted generated _ => cases generated
  | declared _ _ _ _ further =>
      cases further with
      | emitted generated further =>
          cases further
          rw [List.append_nil]
          exact generated

/-- The machine comes to the end of the code of the page, and has written the text escaped once. -/
theorem parcel_printed :
    ∃ code part, parcel.compile true "page" = .ok code ∧ code.ops = part ++ [Op.halt] ∧
      ∃ steps accumulator second, Path slipping (Within 0 0 (0 + part.length)) steps
        (start code ()) ((start code ()).past "&lt;b&gt;" part.length accumulator second ()) := by
  have passed : passesOn (parcel.tree "page") = true := by decide +kernel
  obtain ⟨page, _, _, _, _, _, _, _, _, _, found⟩ := exists_of_passesOn passed
  obtain ⟨code, made, source⟩ := fromText_of_tree found
  obtain ⟨plain, part, emits, fused, stream⟩ := source.built.body.code
  obtain ⟨tree, _, _, _, _, finds⟩ := finds_slip .builtins .standard [("v", .text " <b> ")]
  have inside {name : String} {place place' : Place} {parameters : List String} {body : List Node}
      {operand : Node} : .print place operand ∈
        Template.walk ⟨page, [.macroDef place' name parameters body, .print place operand]⟩ := by
    simp [Template.walk, Node.walkAll, Node.walk]
  have has : Node.HasCode _ part := ⟨plain, .inl (generated_of_emits emits), fused⟩
  have lies : part <+: (start code ()).current.ops.toList.drop 0 := ⟨[.halt], stream.symm⟩
  have taken : Meaning.taking? .last = some "last" := rfl
  have printed : ((Value.text " <b> ").escapeHtml.along ([] ++ Link.argument ::
      ([] ++ [Link.trim] ++ Link.binding :: ([] ++ [Link.last]) ++ [Link.returned]))).printed =
        "&lt;b&gt;" := by
    decide +kernel
  obtain ⟨⟨steps, accumulator, second, _, path⟩, -⟩ :=
    @handed_printed _ true .builtins .standard (some slips) [("v", .text " <b> ")] parcel
      "page" code () 0 (start code ()) _ _ part (.text " <b> ") _
      (fun _ _ => rfl) made rfl source inside has lies
      (.print (.returned (.escaped rfl) .nil .nil rfl rfl
        (.inclusion (.trim (.given rfl)) .nil .nil rfl finds
          (.print (.method taken (.given rfl))))))
  rw [printed] at path
  exact ⟨code, part, made, stream, steps, accumulator, second, path⟩

/-- A text is escaped twice that is filtered once more, joined to an escaped text, even an empty
one, or taken out of a list by joining. -/
theorem escaped_twice :
    escape "<" = "&lt;" ∧
      ∀ content ∈ ["[% v | html | html %]", "[% (v | html) ~ ('' | html) %]",
          "[% [v | html].join() %]"],
        ((compileSource .standard true ⟨0⟩ "page" content).toOption.map fun code =>
          (runFor ⟨.builtins, .standard, none, [("v", .text "<")]⟩ 100 (start code ())).report) =
            some ⟨.finished, "&amp;lt;", []⟩ := by
  decide +kernel

end Stencil.Machine

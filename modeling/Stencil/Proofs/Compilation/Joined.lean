import Stencil.Proofs.Compilation.Forms
import Stencil.Proofs.Text.Pieces

/-!
# Texts that are split and joined

The pieces of a text that was split at a separator, whatever value that is, are joined to the same
text by the same separator.
-/

namespace Stencil

/-! ## Splitting and joining values -/

namespace Value

variable {value : Value} {s : String}

theorem method?_split (text : value.text? = some s) (separator : Value) :
    value.method? "split" [separator] = some (.ok (splitText s separator.display)) := by
  cases value with
  | text | raw =>
      cases text
      rfl
  | _ => cases text

theorem join_splitText (s separator : String) :
    (splitText s separator).join separator = .ok (.text s) := by
  refine congrArg (fun s => Except.ok (Value.text s)) (String.toList_inj.mp ?_)
  have displays : ((Text.split separator.toList s.toList).map
      fun piece => Value.text (.ofList piece)).map (String.toList ∘ display) =
        Text.split separator.toList s.toList := by
    rw [List.map_map]
    exact List.map_id'' (fun _ => String.toList_ofList) _
  rw [String.toList_intercalate, List.map_map, displays, Text.intercalate_split]

end Value

/-! ## The page -/

namespace Machine

open Template (Expression)
open Token (Name)

def nameSplit : Name :=
  .small 's' ['p', 'l', 'i', 't'] rfl (by decide +kernel)

/-- The value of one name split at that of another. -/
def splitting (s separator : Name) : Expression :=
  .methodCall (.symbol s) nameSplit [.symbol separator]

/-- The pieces joined again. -/
def rejoining (s separator : Name) : Expression :=
  .methodCall (splitting s separator) nameJoin [.symbol separator]

variable {σ : Type}

section

variable {environment : Environment σ} {code : Code} {s separator : Name} {written : String}

def splittingOps (s separator : Name) : List Op :=
  methodOps [Op.fetchSymbol (Expression.text s)] "split" [separator]

def rejoiningOps (s separator : Name) : List Op :=
  methodOps (splittingOps s separator) "join" [separator]

theorem straight_splittingOps : Straight (splittingOps s separator) :=
  straight_methodOps (straight_single rfl rfl) _ _

theorem straight_rejoiningOps : Straight (rejoiningOps s separator) :=
  straight_methodOps straight_splittingOps _ _

theorem computes_methodOps {ops : List Op} {spared : Bool} {value result : Value} {name : String}
    {arguments : List Name}
    (computes : (Scene.alone environment code).Computes spared ops (pure value))
    (called : environment.library.callMethod value name (arguments.map environment.given) =
      .ok result) :
    (Scene.alone environment code).Computes false (methodOps ops name arguments)
      (pure result) := by
  have answers := (pushes_names arguments).callMethod computes name
  simp only [pure_bind] at answers
  rwa [show (Scene.alone environment code).surroundings.library = environment.library from rfl,
    called] at answers

variable (text : (environment.given s).text? = some written)

include text

theorem computes_splitting (separator : Name) :
    (Scene.alone environment code).Computes false (splittingOps s separator)
      (pure (.splitText written (environment.given separator).display)) :=
  computes_methodOps (computes_name s) (Library.callMethod_of_method? (Value.method?_split text _))

theorem computes_rejoining (separator : Name) :
    (Scene.alone environment code).Computes false (rejoiningOps s separator)
      (pure (.text written)) := by
  refine computes_methodOps (computes_splitting text separator) ?_
  rw [← Value.join_splitText written (environment.given separator).display]
  exact Library.callMethod_of_method? rfl

end

/-- A text, raw or not, comes to the same text when it is split at the text of any value and joined
with it again, whatever functions and classes there are. Where the separator is not empty, no piece
has it in it, and the pieces are one more than its occurrences in the text. -/
theorem split_text_rejoined (environment : Environment σ) (store : σ) (s separator : Name)
    {written : String} (text : (environment.given s).text? = some written) :
    let parting := (environment.given separator).display.toList
    ∃ pieces : List Value,
      Comes environment store (splitting s separator).printed (.ok (.list pieces)) ∧
      Comes environment store (rejoining s separator).printed (.ok (.text written)) ∧
      (parting ≠ [] → (∀ piece ∈ pieces, ¬ parting <:+: piece.display.toList) ∧
        pieces.length = Text.occurrences parting written.toList + 1) := by
  intro parting
  refine ⟨(Text.split parting written.toList).map fun piece => .text (.ofList piece),
    ?_, ?_, fun nonempty => ⟨?_, ?_⟩⟩
  · exact comes_of_computes rfl straight_splittingOps
      (fun _ => computes_splitting text separator) store
  · exact comes_of_computes rfl straight_rejoiningOps
      (fun _ => computes_rejoining text separator) store
  · intro piece inside
    obtain ⟨characters, listed, rfl⟩ := List.mem_map.mp inside
    rw [Value.display, String.toList_ofList]
    exact Text.not_infix_of_mem_split nonempty characters listed
  · rw [List.length_map, Text.length_split nonempty]

/-- A separator that overlaps itself, and touches both the start of the text and another one. -/
def overlapping : Environment Unit :=
  ⟨.builtins, .standard, none, [("s", .raw "aaaaab"), ("v", .text "aa")]⟩

theorem printed_overlapping :
    (splitting nameS nameV).printed = "[% s . split ( v ) %]" ∧
      (rejoining nameS nameV).printed = "[% s . split ( v ) . join ( v ) %]" := by
  decide +kernel

theorem overlapping_rejoined :
    (overlapping.given nameS).text? = some "aaaaab" ∧
      ∃ pieces : List Value,
        Comes overlapping () "[% s . split ( v ) %]" (.ok (.list pieces)) ∧
        Comes overlapping () "[% s . split ( v ) . join ( v ) %]" (.ok (.text "aaaaab")) ∧
        (∀ piece ∈ pieces, ¬ ['a', 'a'] <:+: piece.display.toList) ∧ pieces.length = 3 := by
  have text : (overlapping.given nameS).text? = some "aaaaab" := rfl
  obtain ⟨pieces, split, joined, parted⟩ := split_text_rejoined overlapping () nameS nameV text
  have nonempty : (overlapping.given nameV).display.toList ≠ [] := by decide
  obtain ⟨without, count⟩ := parted nonempty
  rw [printed_overlapping.1] at split
  rw [printed_overlapping.2] at joined
  exact ⟨text, pieces, split, joined, without, count.trans (by decide)⟩

end Machine

end Stencil

import Stencil.Proofs.Template.Hygiene

/-!
# Positions of nodes

A node of a template stands at its top, in a block, or where a value is needed. The enumeration
keeps the order in which nodes are walked. In a template that was parsed, no statement stands where
a value is needed, so that at most a macro can be out of place.
-/

namespace Stencil

namespace Node

/-- Where a node stands. -/
inductive Position where
  | top
  | block
  | value
deriving Repr, DecidableEq

/-- A node where it stands. -/
structure Occurrence where
  position : Position
  node : Node

/-- Nodes that stand for no value. -/
def isStatement : Node → Bool
  | text .. | print .. | discard .. | conditional .. | forLoop .. | whileLoop .. | macroDef ..
  | inclusion .. | wrapper .. => true
  | _ => false

mutual

/-- A node at a position, and all below it at theirs. -/
def occurrences (position : Position) : Node → List Occurrence
  | field place container name =>
      ⟨position, field place container name⟩ :: occurrences .value container
  | index place container inner =>
      ⟨position, index place container inner⟩ ::
        (occurrences .value container ++ occurrences .value inner)
  | methodCall place invocant name arguments =>
      ⟨position, methodCall place invocant name arguments⟩ ::
        (occurrences .value invocant ++ occurrencesAll .value arguments)
  | functionCall place name arguments =>
      ⟨position, functionCall place name arguments⟩ :: occurrencesAll .value arguments
  | macroCall place name arguments =>
      ⟨position, macroCall place name arguments⟩ :: occurrencesAll .value arguments
  | filter place operand name =>
      ⟨position, filter place operand name⟩ :: occurrences .value operand
  | unary place op operand => ⟨position, unary place op operand⟩ :: occurrences .value operand
  | binary place op left right =>
      ⟨position, binary place op left right⟩ ::
        (occurrences .value left ++ occurrences .value right)
  | assign place name slot value =>
      ⟨position, assign place name slot value⟩ :: occurrences .value value
  | list place items => ⟨position, list place items⟩ :: occurrencesAll .value items
  | range place first last =>
      ⟨position, range place first last⟩ ::
        (occurrences .value first ++ occurrences .value last)
  | print place operand => ⟨position, print place operand⟩ :: occurrences .value operand
  | discard place operand => ⟨position, discard place operand⟩ :: occurrences .value operand
  | conditional place condition positive negative =>
      ⟨position, conditional place condition positive negative⟩ ::
        (occurrences .value condition ++ occurrencesAll .block positive ++
          occurrencesAll .block negative)
  | forLoop place element slot source body most =>
      ⟨position, forLoop place element slot source body most⟩ ::
        (occurrences .value source ++ occurrencesAll .block body)
  | whileLoop place condition body slot most =>
      ⟨position, whileLoop place condition body slot most⟩ ::
        (occurrences .value condition ++ occurrencesAll .block body)
  | macroDef place name parameters body =>
      ⟨position, macroDef place name parameters body⟩ :: occurrencesAll .block body
  | inclusion place template bound =>
      ⟨position, inclusion place template bound⟩ ::
        (occurrences .value template ++ occurrencesBound bound)
  | wrapper place template bound body =>
      ⟨position, wrapper place template bound body⟩ ::
        (occurrencesAll .block body ++ occurrences .value template ++ occurrencesBound bound)
  | leaf => [⟨position, leaf⟩]

def occurrencesAll (position : Position) : List Node → List Occurrence
  | [] => []
  | first :: rest => occurrences position first ++ occurrencesAll position rest

def occurrencesBound : List (String × Node) → List Occurrence
  | [] => []
  | (_, first) :: rest => occurrences .value first ++ occurrencesBound rest

end

mutual

/-- Apart from the positions, the enumeration is the walk. -/
theorem map_occurrences (position : Position) :
    ∀ node : Node, (occurrences position node).map Occurrence.node = node.walk
  | .text .. | .int .. | .uint .. | .float .. | .string .. | .bool .. | .nil _ | .localVar ..
  | .symbol .. | .loopVar .. => rfl
  | .field _ operand _ | .filter _ operand _ | .unary _ _ operand | .assign _ _ _ operand
  | .print _ operand | .discard _ operand => by
      rw [occurrences, walk, List.map_cons, map_occurrences _ operand]
  | .index _ left right | .binary _ _ left right | .range _ left right => by
      rw [occurrences, walk, List.map_cons, List.map_append, map_occurrences _ left,
        map_occurrences _ right]
  | .methodCall _ invocant _ arguments => by
      rw [occurrences, walk, List.map_cons, List.map_append, map_occurrences _ invocant,
        map_occurrencesAll _ arguments]
  | .functionCall _ _ nodes | .macroCall _ _ nodes | .list _ nodes | .macroDef _ _ _ nodes => by
      rw [occurrences, walk, List.map_cons, map_occurrencesAll _ nodes]
  | .conditional _ condition positive negative => by
      rw [occurrences, walk, List.map_cons, List.map_append, List.map_append,
        map_occurrences _ condition, map_occurrencesAll _ positive, map_occurrencesAll _ negative]
  | .forLoop _ _ _ operand body _ | .whileLoop _ operand body _ _ => by
      rw [occurrences, walk, List.map_cons, List.map_append, map_occurrences _ operand,
        map_occurrencesAll _ body]
  | .inclusion _ template bound => by
      rw [occurrences, walk, List.map_cons, List.map_append, map_occurrences _ template,
        map_occurrencesBound bound]
  | .wrapper _ template bound body => by
      rw [occurrences, walk, List.map_cons, List.map_append, List.map_append,
        map_occurrencesAll _ body, map_occurrences _ template, map_occurrencesBound bound]

theorem map_occurrencesAll (position : Position) :
    ∀ nodes : List Node, (occurrencesAll position nodes).map Occurrence.node = walkAll nodes
  | [] => rfl
  | first :: rest => by
      rw [occurrencesAll, walkAll, List.map_append, map_occurrences _ first,
        map_occurrencesAll _ rest]

theorem map_occurrencesBound :
    ∀ bound : List (String × Node), (occurrencesBound bound).map Occurrence.node =
      walkBindings bound
  | [] => rfl
  | (_, first) :: rest => by
      rw [occurrencesBound, walkBindings, List.map_append, map_occurrences _ first,
        map_occurrencesBound rest]

end

theorem occurrencesAll_append (position : Position) (nodes rest : List Node) :
    occurrencesAll position (nodes ++ rest) =
      occurrencesAll position nodes ++ occurrencesAll position rest := by
  induction nodes with
  | nil => rfl
  | cons first nodes ih =>
      rw [List.cons_append, occurrencesAll, occurrencesAll, ih, List.append_assoc]

/-- What stands where a value is needed has one. -/
def Occurrence.Settled (occurrence : Occurrence) : Prop :=
  occurrence.position = .value → occurrence.node.isStatement = false

end Node

/-! ## Templates that were parsed -/

namespace Template

open Node (Occurrence Position occurrencesAll occurrencesBound walkAll)

variable {tokens : List Token} {lexical after : Lexical} {node : Node} {nodes parts : List Node}
  {declared : List Declaration} {size : Nat}

/-- Expressions contain values only. -/
theorem settled_of_readAt (read : Node.ReadAt tokens lexical node) (position : Position) :
    ∀ occurrence ∈ Node.occurrences position node, occurrence.Settled := by
  intro occurrence inside _
  have within : occurrence.node ∈ node.walk := by
    rw [← Node.map_occurrences position node]
    exact List.mem_map_of_mem inside
  have refers := read occurrence.node within
  cases found : occurrence.node <;> rw [found] at refers <;> first | rfl | exact refers.elim

theorem settled_of_bindings {bound : List (String × Node)}
    (read : ∀ binding ∈ bound, Node.ReadAt tokens lexical binding.2) :
    ∀ occurrence ∈ occurrencesBound bound, occurrence.Settled := by
  induction bound with
  | nil => exact nofun
  | cons binding rest ih =>
      obtain ⟨first, others⟩ := List.forall_mem_cons.mp read
      exact List.forall_mem_append.mpr ⟨settled_of_readAt first _, ih others⟩

/-- Nodes of a bounded size, with macros that keep the rules. -/
structure Tame (tokens : List Token) (size : Nat) (nodes : List Node) : Prop where
  macros : MacrosHygienic tokens (walkAll nodes)
  short : (walkAll nodes).length ≤ size

theorem Tame.part (tame : Tame tokens size nodes) (below : walkAll parts <:+: walkAll nodes) :
    Tame tokens size parts :=
  ⟨fun inner inside => tame.macros inner (below.subset inside),
    Nat.le_trans below.length_le tame.short⟩

theorem Tame.below {inner : List Node} (tame : Tame tokens size [node])
    (walk : node.walk = node :: inner) (below : walkAll parts <:+: inner) :
    Tame tokens size parts := by
  refine tame.part (below.trans ?_)
  show inner <:+: node.walk ++ []
  rw [walk]
  exact ((List.suffix_cons _ _).isInfix.trans (List.prefix_append _ _).isInfix)

/-- A node where no value is needed is as settled as what stands below it. -/
theorem settled_alone {position : Position} (apart : position ≠ .value) {below : List Occurrence}
    (inside : ∀ occurrence ∈ below, occurrence.Settled) :
    ∀ occurrence ∈ (⟨position, node⟩ :: below) ++ [], occurrence.Settled :=
  Node.forall_alone (fun same => absurd same apart) inside

/-- An assignment stands for the value that it stores. -/
theorem settled_assign {value : Node} (read : Node.ReadAt tokens lexical value) (place : Place)
    (name : String) (slot : Nat) :
    ∀ occurrence ∈ Node.occurrences .value (.assign place name slot value),
      occurrence.Settled :=
  List.forall_mem_cons.mpr ⟨fun _ => rfl, settled_of_readAt read _⟩

/-- No statement stands where a value is needed. The induction on the size enters the bodies of
macros, which are frames of their own. -/
theorem settled_of_resolved (resolved : Resolved tokens lexical nodes after declared)
    (tame : Tame tokens size nodes) {position : Position} (apart : position ≠ .value) :
    ∀ occurrence ∈ occurrencesAll position nodes, occurrence.Settled := by
  induction size using Nat.strongRecOn generalizing lexical nodes after declared position with
  | ind size enter =>
  have block : Position.block ≠ .value := nofun
  induction resolved generalizing position with
  | nil => exact nofun
  | append _ _ ih ih' =>
      have front := tame.part (Node.walkAll_append .. ▸ (List.prefix_append _ _).isInfix)
      have back := tame.part (Node.walkAll_append .. ▸ (List.suffix_append _ _).isInfix)
      rw [Node.occurrencesAll_append]
      exact List.forall_mem_append.mpr ⟨ih front apart, ih' back apart⟩
  | text => exact settled_alone apart nofun
  | print _ read | discard _ read => exact settled_alone apart (settled_of_readAt read _)
  | assign _ _ _ read | declare _ _ _ read => exact settled_alone apart (settled_assign read _ _ _)
  | conditional _ read _ _ ih ih' =>
      have first := tame.below rfl
        ((List.suffix_append _ _).isInfix.trans (List.prefix_append _ _).isInfix)
      have second := tame.below rfl (List.suffix_append _ _).isInfix
      refine settled_alone apart (List.forall_mem_append.mpr
        ⟨List.forall_mem_append.mpr ⟨settled_of_readAt read _, ih first block⟩, ih' second block⟩)
  | forLoop _ _ read _ ih | whileLoop _ _ read _ ih =>
      have inner := tame.below rfl (List.suffix_append _ _).isInfix
      exact settled_alone apart
        (List.forall_mem_append.mpr ⟨settled_of_readAt read _, ih inner block⟩)
  | macroDef place name parameters body =>
      have inner := tame.below rfl List.infix_rfl
      have smaller : (walkAll body).length < size := by
        have short := tame.short
        simp only [walkAll, Node.walk, List.append_nil, List.length_cons] at short
        omega
      obtain ⟨declared, laid⟩ := tame.macros _ List.mem_cons_self _ rfl
      obtain ⟨after, more, -, resolved⟩ := laid.resolved
      exact settled_alone apart
        (enter _ smaller resolved ⟨inner.macros, Nat.le_refl _⟩ block)
  | inclusion _ read bound =>
      exact settled_alone apart
        (List.forall_mem_append.mpr ⟨settled_of_readAt read _, settled_of_bindings bound⟩)
  | wrapper _ read bound _ ih =>
      have inner := tame.below rfl
        ((List.prefix_append _ _).trans (List.prefix_append _ _)).isInfix
      exact settled_alone apart (List.forall_mem_append.mpr
        ⟨List.forall_mem_append.mpr ⟨ih inner block, settled_of_readAt read _⟩,
          settled_of_bindings bound⟩)

end Template

/-- All nodes of a template at their positions. -/
def Template.occurrences (template : Template) : List Node.Occurrence :=
  Node.occurrencesAll .top template.nodes

/-- The names in a template that was parsed mean what they should, and so do those in its macros. -/
theorem Template.resolved_of_parse {dialect : Token.Dialect} {name source : String}
    {template : Template} (parsed : parse dialect name source = .ok template) :
    ∃ tokens lexical after declared, Resolved tokens lexical template.nodes after declared ∧
      MacrosHygienic tokens template.walk := by
  unfold parse ofTokens at parsed
  dsimp only at parsed
  generalize Token.scan dialect source = tokens at parsed
  have ended := turns_template ⟨name, dialect.closing, dialect.maxIterations⟩ tokens
    (allowanceFor tokens) ⟨.ofTokens tokens, .empty, []⟩
  simp only [ReaderT.run, StateT.run] at parsed
  generalize Template.template (allowanceFor tokens) _ _ = result at parsed ended
  cases result with
  | error problem => cases parsed
  | ok result =>
      obtain ⟨found, after⟩ := result
      cases parsed
      have lays := (ended found after ⟨Token.Stream.draws_ofTokens tokens, rfl, rfl⟩ rfl).2
      obtain ⟨declared, resolved, -⟩ := lays.resolved
      exact ⟨tokens, _, _, declared, resolved, lays.macros⟩

/-- In a template that was parsed, no statement stands where a value is needed. -/
theorem Template.settled_of_parse {dialect : Token.Dialect} {name source : String}
    {template : Template} (parsed : parse dialect name source = .ok template) :
    ∀ occurrence ∈ template.occurrences, occurrence.Settled := by
  obtain ⟨_, _, _, _, resolved, macros⟩ := resolved_of_parse parsed
  exact settled_of_resolved resolved ⟨macros, Nat.le_refl _⟩ nofun

end Stencil

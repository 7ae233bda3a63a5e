import Mathlib.Data.List.Nodup
import Mathlib.Data.List.Pairwise
import Stencil.Proofs.Template.Lexical

/-!
# Names of resolved nodes

Every name that is read or assigned in a frame was declared there. Where the declarations hand out
no slot twice, it therefore never stands for a slot that a loop keeps for itself.
-/

namespace Stencil

namespace Node

theorem append_subset_append {first first' second second' : List Node} (one : first ⊆ first')
    (other : second ⊆ second') : first ++ second ⊆ first' ++ second' :=
  List.append_subset.mpr ⟨List.subset_append_of_subset_left _ one,
    List.subset_append_of_subset_right _ other⟩

mutual

theorem own_subset_walk : ∀ node : Node, node.own ⊆ node.walk
  | .text .. | .int .. | .uint .. | .float .. | .string .. | .bool .. | .nil _ | .localVar ..
  | .symbol .. | .loopVar .. => List.Subset.refl _
  | .field _ operand _ | .filter _ operand _ | .unary _ _ operand | .assign _ _ _ operand
  | .print _ operand | .discard _ operand => List.cons_subset_cons _ (own_subset_walk operand)
  | .index _ left right | .binary _ _ left right | .range _ left right =>
      List.cons_subset_cons _ (append_subset_append (own_subset_walk left)
        (own_subset_walk right))
  | .methodCall _ invocant _ arguments =>
      List.cons_subset_cons _ (append_subset_append (own_subset_walk invocant)
        (ownAll_subset_walkAll arguments))
  | .functionCall _ _ nodes | .macroCall _ _ nodes | .list _ nodes =>
      List.cons_subset_cons _ (ownAll_subset_walkAll nodes)
  | .macroDef .. => List.cons_subset_cons _ (List.nil_subset _)
  | .conditional _ condition positive negative =>
      List.cons_subset_cons _ (append_subset_append (append_subset_append
        (own_subset_walk condition) (ownAll_subset_walkAll positive))
        (ownAll_subset_walkAll negative))
  | .forLoop _ _ _ operand body _ | .whileLoop _ operand body _ _ =>
      List.cons_subset_cons _ (append_subset_append (own_subset_walk operand)
        (ownAll_subset_walkAll body))
  | .inclusion _ template bound =>
      List.cons_subset_cons _ (append_subset_append (own_subset_walk template)
        (ownBindings_subset_walkBindings bound))
  | .wrapper _ template bound body =>
      List.cons_subset_cons _ (append_subset_append (append_subset_append
        (ownAll_subset_walkAll body) (own_subset_walk template))
        (ownBindings_subset_walkBindings bound))

theorem ownAll_subset_walkAll : ∀ nodes : List Node, ownAll nodes ⊆ walkAll nodes
  | [] => List.Subset.refl _
  | first :: rest =>
      append_subset_append (own_subset_walk first) (ownAll_subset_walkAll rest)

theorem ownBindings_subset_walkBindings :
    ∀ bound : List (String × Node), ownBindings bound ⊆ walkBindings bound
  | [] => List.Subset.refl _
  | (_, first) :: rest =>
      append_subset_append (own_subset_walk first) (ownBindings_subset_walkBindings rest)

end

theorem ownAll_append (nodes rest : List Node) :
    ownAll (nodes ++ rest) = ownAll nodes ++ ownAll rest := by
  induction nodes with
  | nil => rfl
  | cons first nodes ih => rw [List.cons_append, ownAll, ownAll, ih, List.append_assoc]

end Node

namespace Template

variable {tokens : List Token} {lexical after : Lexical} {nodes : List Node}
  {declared more : List Declaration} {node : Node}

theorem Lexical.mem_entries_of_lookup {name : String} {slot : Nat}
    (found : lexical.lookup? name = some slot) : (name, slot) ∈ lexical.entries := by
  obtain ⟨scope, inside, looked⟩ := List.exists_of_findSome?_eq_some found
  obtain ⟨before, later, rfl, _⟩ := List.lookup_eq_some_iff.mp looked
  have entry : (name, slot) ∈ before ++ (name, slot) :: later :=
    List.mem_append_right before List.mem_cons_self
  rcases List.mem_cons.mp inside with innermost | inside
  · exact List.mem_append_left _ (innermost ▸ entry)
  · exact List.mem_append_right _ (List.mem_flatten.mpr ⟨_, inside, entry⟩)

theorem Lexical.Finds.mem_entries {name : String} {token : Token} {slot : Nat}
    (found : lexical.Finds name token (some slot)) : (name, slot) ∈ lexical.entries := by
  generalize same : some slot = slot? at found
  cases found with
  | plain place => exact mem_entries_of_lookup same.symm
  | set place word =>
      obtain ⟨before, later, parts, _⟩ := List.lookup_eq_some_iff.mp same.symm
      refine List.mem_append_left _ ?_
      rw [parts]
      exact List.mem_append_right before List.mem_cons_self

/-- A variable of the scopes at the start, or one that was declared since. -/
def Known (lexical : Lexical) (declared : List Declaration) (entry : String × Nat) : Prop :=
  entry ∈ lexical.entries ∨ ∃ declaration ∈ declared, declaration.entry? = some entry

theorem Known.later {entry : String × Nat} (known : Known lexical declared entry) :
    Known lexical (declared ++ more) entry := by
  rcases known with seen | ⟨declaration, inside, made⟩
  · exact .inl seen
  · exact .inr ⟨declaration, List.mem_append_left _ inside, made⟩

/-- What is known at a point where only known variables can be seen was known before. -/
theorem Known.earlier {entry : String × Nat} (known : Known after more entry)
    (seen : ∀ entry ∈ after.entries, Known lexical declared entry) :
    Known lexical (declared ++ more) entry := by
  rcases known with visible | ⟨declaration, inside, made⟩
  · exact (seen entry visible).later
  · exact .inr ⟨declaration, List.mem_append_right _ inside, made⟩

/-- The variables that the nodes of a frame read or assign. -/
def AllKnown (lexical : Lexical) (declared : List Declaration) (nodes : List Node) : Prop :=
  ∀ node ∈ nodes, ∀ entry, node.entry? = some entry → Known lexical declared entry

theorem AllKnown.append {rest : List Node} (first : AllKnown lexical declared nodes)
    (second : AllKnown lexical declared rest) : AllKnown lexical declared (nodes ++ rest) :=
  List.forall_mem_append.mpr ⟨first, second⟩

/-- A node that neither reads nor assigns a variable itself. -/
theorem AllKnown.cons (none : node.entry? = none) (rest : AllKnown lexical declared nodes) :
    AllKnown lexical declared (node :: nodes) := by
  refine List.forall_mem_cons.mpr ⟨?_, rest⟩
  intro entry mentioned
  rw [none] at mentioned
  cases mentioned

theorem AllKnown.later (known : AllKnown lexical declared nodes) :
    AllKnown lexical (declared ++ more) nodes :=
  fun node inside entry mentioned => (known node inside entry mentioned).later

theorem AllKnown.earlier (known : AllKnown after more nodes)
    (seen : ∀ entry ∈ after.entries, Known lexical declared entry) :
    AllKnown lexical (declared ++ more) nodes :=
  fun node inside entry mentioned => (known node inside entry mentioned).earlier seen

theorem known_of_readAt (read : Node.ReadAt tokens lexical node) :
    AllKnown lexical declared node.own := by
  intro inner inside entry mentioned
  have refers := read inner (Node.own_subset_walk node inside)
  cases inner with
  | localVar place name slot =>
      cases mentioned
      exact .inl (Lexical.mem_entries_of_lookup refers.2)
  | assign place name slot value => exact absurd refers id
  | _ => cases mentioned

theorem known_of_bindings {bindings : List (String × Node)}
    (bound : ∀ binding ∈ bindings, Node.ReadAt tokens lexical binding.2) :
    AllKnown lexical declared (Node.ownBindings bindings) := by
  induction bindings with
  | nil => exact nofun
  | cons binding rest ih =>
      have first : AllKnown lexical declared binding.2.own :=
        known_of_readAt (bound binding List.mem_cons_self)
      have others := ih fun other inside => bound other (List.mem_cons_of_mem _ inside)
      exact List.forall_mem_append.mpr ⟨first, others⟩

namespace Resolved

/-- Behind nodes of a frame the scopes and loops around are the same as before. -/
theorem around (resolved : Resolved tokens lexical nodes after declared) :
    after.outer = lexical.outer ∧ after.loops = lexical.loops := by
  induction resolved with
  | append _ _ first second => exact ⟨second.1.trans first.1, second.2.trans first.2⟩
  | conditional _ _ _ _ first second => exact ⟨second.1.trans first.1, second.2.trans first.2⟩
  | wrapper _ _ _ _ inside => exact inside
  | _ => exact ⟨rfl, rfl⟩

/-- Every variable that can be seen behind the nodes, or is read or assigned in them, was there
before or has its declaration among theirs. -/
theorem known (resolved : Resolved tokens lexical nodes after declared) :
    (∀ entry ∈ after.entries, Known lexical declared entry) ∧
      AllKnown lexical declared (Node.ownAll nodes) := by
  induction resolved with
  | nil => exact ⟨fun entry => .inl, nofun⟩
  | append _ _ first second =>
      obtain ⟨seen, all⟩ := first
      obtain ⟨seen', all'⟩ := second
      refine ⟨fun entry inside => (seen' entry inside).earlier seen, ?_⟩
      rw [Node.ownAll_append]
      exact all.later.append (all'.earlier seen)
  | text place content => exact ⟨fun entry => .inl, .cons rfl nofun⟩
  | print place read | discard place read =>
      exact ⟨fun entry => .inl, .cons rfl ((known_of_readAt read).append nofun)⟩
  | assign place written found read =>
      refine ⟨fun entry => .inl, .cons rfl (.append ?_ nofun)⟩
      refine List.forall_mem_cons.mpr ⟨?_, known_of_readAt read⟩
      rintro entry ⟨⟩
      exact .inl found.mem_entries
  | @declare lexical name slot value token place written missing read =>
      have made : Known lexical [.named name slot] (name, slot) :=
        .inr ⟨_, List.mem_singleton_self _, rfl⟩
      refine ⟨?_, .cons rfl (.append ?_ nofun)⟩
      · exact List.forall_mem_cons.mpr ⟨made, fun entry => .inl⟩
      · refine List.forall_mem_cons.mpr ⟨?_, known_of_readAt read⟩
        rintro entry ⟨⟩
        exact made
  | conditional place read _ _ first second =>
      obtain ⟨seen, all⟩ := first
      obtain ⟨seen', all'⟩ := second
      refine ⟨fun entry inside => (seen' entry inside).earlier seen, .cons rfl ?_⟩
      exact (((known_of_readAt read).append all.later).append (all'.earlier seen)).append nofun
  | @forLoop lexical inner source body name slot declared place most read _ inside =>
      have entered : ∀ entry ∈ (lexical.inFor name slot).entries,
          Known lexical [.element name slot] entry :=
        List.forall_mem_cons.mpr
          ⟨.inr ⟨_, List.mem_singleton_self _, rfl⟩, fun entry => .inl⟩
      refine ⟨fun entry => .inl, .cons rfl ?_⟩
      exact ((known_of_readAt read).append (inside.2.earlier entered)).append nofun
  | @whileLoop lexical inner condition body slot declared place most read _ inside =>
      have entered : ∀ entry ∈ lexical.inWhile.entries, Known lexical [.count slot] entry :=
        fun entry => .inl
      refine ⟨fun entry => .inl, .cons rfl ?_⟩
      exact ((known_of_readAt read).append (inside.2.earlier entered)).append nofun
  | macroDef place name parameters body => exact ⟨fun entry => .inl, .cons rfl nofun⟩
  | inclusion place read bound =>
      refine ⟨fun entry => .inl, .cons rfl ?_⟩
      exact ((known_of_readAt read).append (known_of_bindings bound)).append nofun
  | wrapper place read bound _ inside =>
      refine ⟨inside.1, .cons rfl ?_⟩
      exact ((inside.2.append (known_of_readAt read)).append (known_of_bindings bound)).append nofun

end Resolved

/-! ## Distinct slots -/

namespace Declaration

instance : Std.Symm Apart where
  symm _ _ apart _ inside inside' := apart inside' inside

theorem hidden_subset_slots (declaration : Declaration) :
    declaration.hidden ⊆ declaration.slots := by
  cases declaration with
  | named name slot => exact List.nil_subset _
  | element name slot => exact List.subset_cons_self _ _
  | count slot => exact List.Subset.refl _

theorem slot_of_entry {declaration : Declaration} {name : String} {slot : Nat}
    (made : declaration.entry? = some (name, slot)) :
    slot ∈ declaration.slots ∧ slot ∉ declaration.hidden := by
  cases declaration with
  | named _ _ =>
      cases made
      exact ⟨List.mem_singleton_self _, List.not_mem_nil⟩
  | element _ _ =>
      cases made
      exact ⟨List.mem_cons_self, by simp [hidden]⟩
  | count _ => cases made

/-- Where slots are handed out once, no variable has a slot that another declaration keeps. -/
theorem not_hidden {name : String} {slot : Nat} {declaration other : Declaration}
    (disjoint : declared.Pairwise Apart)
    (inside : declaration ∈ declared) (inside' : other ∈ declared)
    (made : declaration.entry? = some (name, slot)) : slot ∉ other.hidden := by
  intro kept
  obtain ⟨own, free⟩ := slot_of_entry made
  have apart : declaration ≠ other := by
    rintro rfl
    exact free kept
  have separate := disjoint.forall inside inside' apart
  exact separate own (hidden_subset_slots other kept)

end Declaration

theorem Lexical.known_ofParameters (parameters : List String) (inner : List Declaration) :
    ∀ entry ∈ (Lexical.ofParameters parameters).entries,
      ∃ declaration ∈ Declaration.ofParameters parameters ++ inner,
        declaration.entry? = some entry := by
  rintro ⟨name, slot⟩ inside
  have listed : (name, slot) ∈ parameters.zipIdx := by
    simpa [entries, Lexical.ofParameters] using inside
  exact ⟨.named name slot, List.mem_append_left _ (List.mem_map.mpr ⟨_, listed, rfl⟩), rfl⟩

theorem Body.hygienic_of_resolved {body : Body}
    (resolved : Resolved tokens (.ofParameters body.parameters) body.nodes after declared)
    (distinct : ((Declaration.ofParameters body.parameters ++ declared).flatMap
      Declaration.slots).Nodup) : body.Hygienic tokens := by
  have disjoint := (List.nodup_flatMap.mp distinct).2
  have named : ∀ node ∈ Node.ownAll body.nodes, ∀ name slot, node.entry? = some (name, slot) →
      ∃ declaration ∈ Declaration.ofParameters body.parameters ++ declared,
        declaration.entry? = some (name, slot) := by
    intro node inside name slot mentioned
    rcases resolved.known.2 node inside (name, slot) mentioned with seen | ⟨_, made, entry⟩
    · exact Lexical.known_ofParameters body.parameters declared (name, slot) seen
    · exact ⟨_, List.mem_append_right _ made, entry⟩
  refine ⟨_, ⟨after, declared, rfl, resolved⟩, disjoint, named, ?_⟩
  intro node inside name slot mentioned other inside'
  obtain ⟨declaration, made, entry⟩ := named node inside name slot mentioned
  exact Declaration.not_hidden disjoint made inside' entry

end Template

end Stencil

import Stencil.Compile
import Stencil.Proofs.Compilation.Emission
import Stencil.Proofs.Compilation.SlotRange
import Stencil.Proofs.Template.Blocks

/-!
# Compiled templates

Code that was compiled from a text belongs to the tree of that text: macros are declared at the top
only, so that each one that is called is there.
-/

namespace Stencil

open Meaning (definition? mem_walkAll_of_definition?)

/-- A node that declares no macro. -/
def Node.Plain : Node → Prop
  | .macroDef .. => False
  | _ => True

namespace Generate

mutual

/-- Nodes that have code declare no macros. -/
theorem plain_expression : ∀ {node : Node} {code : List Op}, expression node = .ok code →
    ∀ inner ∈ node.walk, inner.Plain
  | .int .., _, _ | .uint .., _, _ | .float .., _, _ | .string .., _, _ | .bool .., _, _
  | .nil _, _, _ | .localVar .., _, _ | .symbol .., _, _ | .loopVar .., _, _ =>
      List.forall_mem_singleton.mpr trivial
  | .field .., _, generated | .filter .., _, generated | .unary .., _, generated
  | .assign .., _, generated => by
      simp only [expression, bind_eq_ok] at generated
      obtain ⟨first, here, ⟨⟩⟩ := generated
      exact List.forall_mem_cons.mpr ⟨trivial, plain_expression here⟩
  | .index .., _, generated | .binary .., _, generated | .range .., _, generated => by
      simp only [expression, bind_eq_ok] at generated
      obtain ⟨first, here, second, there, ⟨⟩⟩ := generated
      exact List.forall_mem_cons.mpr ⟨trivial, List.forall_mem_append.mpr
        ⟨plain_expression here, plain_expression there⟩⟩
  | .methodCall .., _, generated => by
      simp only [expression, bind_eq_ok] at generated
      obtain ⟨first, here, rest, further, ⟨⟩⟩ := generated
      exact List.forall_mem_cons.mpr ⟨trivial, List.forall_mem_append.mpr
        ⟨plain_expression here, plain_pushed further⟩⟩
  | .functionCall .., _, generated | .macroCall .., _, generated | .list .., _, generated => by
      simp only [expression, bind_eq_ok] at generated
      obtain ⟨rest, further, ⟨⟩⟩ := generated
      exact List.forall_mem_cons.mpr ⟨trivial, plain_pushed further⟩

theorem plain_pushed : ∀ {nodes : List Node} {code : List Op}, pushed nodes = .ok code →
    ∀ inner ∈ Node.walkAll nodes, inner.Plain
  | [], _, _ => nofun
  | first :: rest, _, generated => by
      simp only [pushed, bind_eq_ok] at generated
      obtain ⟨code, here, more, further, ⟨⟩⟩ := generated
      exact List.forall_mem_append.mpr ⟨plain_expression here, plain_pushed further⟩

theorem plain_pushedBindings : ∀ {bound : List (String × Node)} {code : List Op},
    pushedBindings bound = .ok code → ∀ inner ∈ Node.walkBindings bound, inner.Plain
  | [], _, _ => nofun
  | (name, first) :: rest, _, generated => by
      simp only [pushedBindings, bind_eq_ok] at generated
      obtain ⟨code, here, more, further, ⟨⟩⟩ := generated
      exact List.forall_mem_append.mpr ⟨plain_expression here, plain_pushedBindings further⟩

end

theorem plain_bindings {bound : List (String × Node)} {code : List Op}
    (generated : bindings bound = .ok code) : ∀ inner ∈ Node.walkBindings bound, inner.Plain := by
  unfold bindings at generated
  split at generated
  · next empty =>
      rw [List.isEmpty_iff.mp empty]
      exact nofun
  · simp only [bind_eq_ok] at generated
    obtain ⟨pairs, further, ⟨⟩⟩ := generated
    exact plain_pushedBindings further

mutual

theorem plain_statement : ∀ {node : Node} {code : List Op}, statement node = .ok code →
    ∀ inner ∈ node.walk, inner.Plain
  | .text .., _, _ => List.forall_mem_singleton.mpr trivial
  | .print .., _, generated => by
      simp only [statement, bind_eq_ok] at generated
      obtain ⟨value, here, ⟨⟩⟩ := generated
      exact List.forall_mem_cons.mpr ⟨trivial, plain_expression here⟩
  | .discard .., _, generated =>
      List.forall_mem_cons.mpr ⟨trivial, plain_expression generated⟩
  | .conditional .., _, generated => by
      simp only [statement, bind_eq_ok] at generated
      obtain ⟨test, here, first, yes, second, no, ⟨⟩⟩ := generated
      exact List.forall_mem_cons.mpr ⟨trivial, List.forall_mem_append.mpr
        ⟨List.forall_mem_append.mpr ⟨plain_expression here, plain_block yes⟩, plain_block no⟩⟩
  | .forLoop .., _, generated => by
      simp only [statement, bind_eq_ok] at generated
      obtain ⟨list, here, body, inside, ⟨⟩⟩ := generated
      exact List.forall_mem_cons.mpr ⟨trivial, List.forall_mem_append.mpr
        ⟨plain_expression here, plain_block inside⟩⟩
  | .whileLoop .., _, generated => by
      simp only [statement, bind_eq_ok] at generated
      obtain ⟨test, here, body, inside, ⟨⟩⟩ := generated
      exact List.forall_mem_cons.mpr ⟨trivial, List.forall_mem_append.mpr
        ⟨plain_expression here, plain_block inside⟩⟩
  | .inclusion .., _, generated => by
      simp only [statement, target, bind_eq_ok] at generated
      obtain ⟨_, ⟨name, here, map, there, ⟨⟩⟩, ⟨⟩⟩ := generated
      exact List.forall_mem_cons.mpr ⟨trivial, List.forall_mem_append.mpr
        ⟨plain_expression here, plain_bindings there⟩⟩
  | .wrapper .., _, generated => by
      simp only [statement, target, bind_eq_ok] at generated
      obtain ⟨content, inside, _, ⟨name, here, map, there, ⟨⟩⟩, ⟨⟩⟩ := generated
      exact List.forall_mem_cons.mpr ⟨trivial, List.forall_mem_append.mpr
        ⟨List.forall_mem_append.mpr ⟨plain_block inside, plain_expression here⟩,
          plain_bindings there⟩⟩
  | .int .., _, generated | .uint .., _, generated | .float .., _, generated
  | .string .., _, generated | .bool .., _, generated | .nil _, _, generated
  | .localVar .., _, generated | .symbol .., _, generated | .loopVar .., _, generated
  | .field .., _, generated | .index .., _, generated | .methodCall .., _, generated
  | .functionCall .., _, generated | .macroCall .., _, generated | .filter .., _, generated
  | .unary .., _, generated | .binary .., _, generated | .assign .., _, generated
  | .list .., _, generated | .range .., _, generated => plain_expression generated

theorem plain_block : ∀ {nodes : List Node} {code : List Op}, block nodes = .ok code →
    ∀ inner ∈ Node.walkAll nodes, inner.Plain
  | [], _, _ => nofun
  | first :: rest, _, generated => by
      simp only [block, bind_eq_ok] at generated
      obtain ⟨code, here, more, further, ⟨⟩⟩ := generated
      exact List.forall_mem_append.mpr ⟨plain_statement here, plain_block further⟩

end

/-- A node at the top is a macro or a statement. -/
theorem topLevel_cons {macros macros' : Dictionary MacroCode} {first : Node} {rest : List Node}
    {code : List Op} (generated : topLevel macros (first :: rest) = .ok (code, macros')) :
    (∃ place name parameters body ops, first = .macroDef place name parameters body ∧
      block body = .ok ops ∧
      topLevel (macros.insert name ⟨parameters, ops ++ [Op.halt]⟩) rest = .ok (code, macros')) ∨
    ∃ here more, statement first = .ok here ∧ first.Plain ∧
      topLevel macros rest = .ok (more, macros') ∧ code = here ++ more := by
  cases first with
  | macroDef place name parameters body =>
      simp only [topLevel, bind_eq_ok] at generated
      obtain ⟨ops, inside, further⟩ := generated
      exact .inl ⟨place, name, parameters, body, ops, rfl, inside, further⟩
  | _ =>
      simp only [topLevel, bind_eq_ok] at generated
      obtain ⟨here, started, ⟨more, found⟩, further, ⟨⟩⟩ := generated
      exact .inr ⟨here, more, started, trivial, further, rfl⟩

theorem emits_of_topLevel {macros macros' : Dictionary MacroCode} {nodes : List Node}
    {code : List Op} (generated : topLevel macros nodes = .ok (code, macros')) :
    Emits nodes code := by
  induction nodes generalizing macros code with
  | nil =>
      cases generated
      exact .nil
  | cons first rest ih =>
      obtain ⟨place, name, parameters, body, ops, rfl, _, further⟩ |
        ⟨here, more, started, _, further, rfl⟩ := topLevel_cons generated
      · exact .declared place name parameters body (ih further)
      · exact .emitted started (ih further)

end Generate

/-! ## Macros -/

theorem definition?_plain {name : String} {first : Node} {rest : List Node} (plain : first.Plain) :
    definition? name (first :: rest) = definition? name rest := by
  cases first with
  | macroDef => exact plain.elim
  | _ => rfl

namespace Generate

/-- A macro that is declared has the code of its last body; there are no others. -/
theorem find?_of_topLevel {macros macros' : Dictionary MacroCode} {nodes : List Node}
    {code : List Op} (generated : topLevel macros nodes = .ok (code, macros')) (name : String) :
    match definition? name nodes with
    | none => macros'.find? name = macros.find? name
    | some definition => ∃ ops, block definition.body = .ok ops ∧
        macros'.find? name = some ⟨definition.parameters, ops ++ [Op.halt]⟩ := by
  induction nodes generalizing macros code with
  | nil =>
      cases generated
      rfl
  | cons first rest ih =>
      obtain ⟨place, other, parameters, body, ops, rfl, inside, further⟩ |
        ⟨here, more, started, plain, further, rfl⟩ := topLevel_cons generated
      · have later := ih further
        rw [definition?]
        cases found : definition? name rest with
        | some definition =>
            rw [found] at later
            exact later
        | none =>
            rw [found] at later
            by_cases same : other = name
            · subst same
              rw [if_pos rfl]
              exact ⟨ops, inside, later.trans (Dictionary.find?_insert_self ..)⟩
            · rw [if_neg same]
              exact later.trans (Dictionary.find?_insert_of_ne _ _ (Ne.symm same))
      · rw [definition?_plain plain]
        exact ih further

/-- Macros are declared at the top only. -/
theorem definition?_of_topLevel {macros macros' : Dictionary MacroCode} {nodes : List Node}
    {code : List Op} (generated : topLevel macros nodes = .ok (code, macros')) {name : String}
    (declared : Node.DeclaredIn name nodes) : (definition? name nodes).isSome := by
  induction nodes generalizing macros code with
  | nil =>
      obtain ⟨place, parameters, body, inside⟩ := declared
      cases inside
  | cons first rest ih =>
      obtain ⟨place, parameters, body, inside⟩ := declared
      obtain ⟨place', other, parameters', body', ops, rfl, inner, further⟩ |
        ⟨here, more, started, plain, further, rfl⟩ := topLevel_cons generated
      · rw [definition?, Option.isSome_or, Bool.or_eq_true]
        obtain inside | inside := List.mem_append.mp inside
        · obtain ⟨⟨⟩⟩ | inside := List.mem_cons.mp inside
          · exact .inr (by rw [if_pos rfl]; rfl)
          · exact (plain_block inner _ inside).elim
        · exact .inl (ih further ⟨place, parameters, body, inside⟩)
      · rw [definition?_plain plain]
        obtain inside | inside := List.mem_append.mp inside
        · exact (plain_statement started _ inside).elim
        · exact ih further ⟨place, parameters, body, inside⟩

end Generate

/-! ## Templates -/

theorem Node.Proper.sound {macros : List String} {max : Nat} {declared : String → Prop}
    {node : Node} (proper : node.Proper macros max) (named : ∀ name ∈ macros, declared name) :
    node.Sound declared := by
  cases node with
  | macroCall place name arguments => exact named name proper
  | forLoop => exact proper.2
  | whileLoop => exact proper.2
  | _ => trivial

theorem streams_of_emits {declared : String → Prop} {nodes : List Node} {plain ops : List Op}
    (sound : ∀ node ∈ Node.walkAll nodes, node.Sound declared)
    (fits : Node.FitAll 0x8000000000000000 nodes) (emits : Emits nodes plain)
    (fused : Fused (plain ++ [Op.halt]) ops) : Streams declared nodes ops := by
  have slotted : Slotted 0x8000000000000000 ops := fused.slotted ((emits.slotted fits).snoc rfl)
  obtain ⟨front, _, rfl, begun, ended⟩ := fused.split (by simp [Fresh])
  cases ended with
  | keep _ rest =>
      cases rest
      exact ⟨sound, slotted, plain, front, emits, begun, rfl⟩

theorem find?_mapStreams (change : List Op → List Op) (code : Code) (name : String) :
    Dictionary.find? (code.mapStreams change).macros name =
      (Dictionary.find? code.macros name).map fun body => { body with ops := change body.ops } := by
  unfold Code.mapStreams Dictionary.find?
  induction code.macros with
  | nil => rfl
  | cons entry rest ih =>
      obtain ⟨key, body⟩ := entry
      rw [List.map_cons, List.lookup_cons, List.lookup_cons]
      cases name == key with
      | true => rfl
      | false => exact ih

theorem compile_eq_ok {template : Template} {now : Time} {code : Code}
    (compiled : template.compile now = .ok code) :
    ∃ ops macros, Generate.topLevel [] template.nodes = .ok (ops, macros) ∧
      code = ⟨template.name, now, ops ++ [Op.halt], macros⟩ ∧ code.check = .ok () := by
  obtain ⟨⟨ops, macros⟩, generated, further⟩ := bind_eq_ok.mp (Template.composed_of_compile compiled)
  obtain ⟨_, checked, ⟨⟩⟩ := bind_eq_ok.mp further
  exact ⟨ops, macros, generated, rfl, mapError_eq_ok.mp checked⟩

/-! ## Texts -/

/-- A text to compile, and how. There is no memory for a longer one. -/
structure Machine.Text where
  dialect : Token.Dialect
  now : Time
  content : String
  short : content.utf8ByteSize < 0x4000000000000000 := by decide

open Machine (Text)

/-- The tree of a text. -/
def Machine.Text.Parses (text : Text) (name : String) (template : Template) : Prop :=
  Template.parse text.dialect name text.content = .ok template

section

variable {text : Text} {name : String} {template : Template} {code : Code}

/-- A text is too short for slots that wrap around. -/
theorem fitAll_of_parses (parses : text.Parses name template) :
    Node.FitAll 0x8000000000000000 template.nodes := by
  have short := text.short
  exact fun inner inside => (Template.slots_fewer parses inner inside).mono (by omega)

/-- The code of a template that was parsed belongs to it, and so does its code with fused prints. -/
theorem built_of_compile {now : Time} {change : List Op → List Op}
    (parses : text.Parses name template) (compiled : template.compile now = .ok code)
    (changes : ∀ ops, Fused ops (change ops)) : Built template (code.mapStreams change) := by
  obtain ⟨known, named, proper⟩ := Template.proper_of_parse parses
  have fits := fitAll_of_parses parses
  obtain ⟨ops, macros, generated, rfl, _⟩ := compile_eq_ok compiled
  have sound : ∀ node ∈ Node.walkAll template.nodes, node.Sound template.Declares := by
    intro node inside
    exact (proper node inside).sound fun name declared =>
      Generate.definition?_of_topLevel generated (named name declared)
  refine ⟨rfl, streams_of_emits sound fits (Generate.emits_of_topLevel generated) (changes _), ?_⟩
  intro name
  rw [find?_mapStreams]
  have found := Generate.find?_of_topLevel generated name
  cases declared : definition? name template.nodes with
  | none =>
      rw [declared] at found
      rw [found]
      exact .missing
  | some definition =>
      rw [declared] at found
      obtain ⟨ops, inside, found⟩ := found
      rw [found]
      refine .present definition.parameters
        (streams_of_emits ?_ ?_ (emits_of_block inside) (changes _))
      · exact fun node within => sound node (mem_walkAll_of_definition? declared node within)
      · exact fun node within => fits node (mem_walkAll_of_definition? declared node within)

/-- A tree and the code that it was compiled to, as they come from a text. -/
structure Compiled (template : Template) (code : Code) : Prop where
  source : ∃ (text : Text) (name : String), text.Parses name template
  code : ∃ now, template.compile now = .ok code

theorem Compiled.built (compiled : Compiled template code) : Built template code := by
  obtain ⟨⟨text, name, parses⟩, now, made⟩ := compiled
  have built := built_of_compile parses made Fused.refl
  have same : code.mapStreams (fun ops => ops) = code := by
    simp [Code.mapStreams]
  rwa [same] at built

theorem Compiled.built_optimize (compiled : Compiled template code) :
    Built template code.optimize := by
  obtain ⟨⟨text, name, parses⟩, now, made⟩ := compiled
  exact built_of_compile parses made fused_fuse

end

end Stencil

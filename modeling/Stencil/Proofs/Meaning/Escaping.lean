import Stencil.Proofs.Meaning.Basic
import Stencil.Proofs.Value.Harmless

/-!
# Rendering without markup

Where the texts outside tags have no markup and nothing is declared raw, rendering writes none,
also where it fails. A raw text comes from escaping, from what was written before, or from another
raw text.
-/

namespace Stencil

/-- A node brings in no markup: it is no text outside tags that has some, and declares no text
raw. -/
def Node.Escaping : Node → Prop
  | .text _ content => Text.Harmless content.toList
  | .filter _ _ name => name ≠ "raw"
  | _ => True

instance : (node : Node) → Decidable node.Escaping
  | .text _ content => inferInstanceAs (Decidable (Text.Harmless content.toList))
  | .filter _ _ name => inferInstanceAs (Decidable (name ≠ "raw"))
  | .int .. | .uint .. | .float .. | .string .. | .bool .. | .nil _ | .localVar .. | .symbol ..
  | .loopVar .. | .field .. | .index .. | .methodCall .. | .functionCall .. | .macroCall ..
  | .unary .. | .binary .. | .assign .. | .list .. | .range .. | .print .. | .discard ..
  | .conditional .. | .forLoop .. | .whileLoop .. | .macroDef .. | .inclusion .. | .wrapper .. =>
      isTrue trivial

/-- No node of the template brings in markup. -/
def Template.Escaping (template : Template) : Prop :=
  ∀ inner ∈ template.walk, inner.Escaping

instance (template : Template) : Decidable template.Escaping :=
  List.decidableBAll Node.Escaping template.walk

namespace Meaning

variable {σ α β : Type}

/-! ## Operators -/

theorem harmless_countFrom (first : Int) (count : Nat) :
    ∀ item ∈ countFrom first count, item.Harmless := by
  induction count generalizing first with
  | zero => exact nofun
  | succ count ih => exact List.forall_mem_cons.mpr ⟨.int _, ih (first + 1)⟩

theorem harmless_integersOf (limits : Machine.Limits) (first last : Int) :
    Answer.Harmless (integersOf limits first last) := by
  unfold integersOf
  dsimp only
  split
  · exact .ok (.list (harmless_countFrom first _))
  · exact .error _

theorem harmless_operate {left right : Value} (harmless : left.Harmless)
    (harmless' : right.Harmless) (op : Node.BinaryOp) :
    Answer.Harmless (operate left right op) := by
  cases op with
  | add | sub | mul => exact .ok (Value.harmless_combine _ _ _ _)
  | div => exact Value.harmless_div left right
  | mod => exact Value.harmless_rem left right
  | concat => exact .ok (.text _)
  | eq | ne | lt | gt | le | ge => exact .ok (.bool _)
  | and =>
      refine .ok ?_
      split
      · exact harmless'
      · exact harmless
  | or =>
      refine .ok ?_
      split
      · exact harmless
      · exact harmless'

theorem harmless_operateOne (operand : Value) (op : Node.UnaryOp) :
    (operateOne operand op).Harmless := by
  cases op with
  | not => exact .bool _
  | neg => exact Value.harmless_neg operand

/-- All filters but one leave no markup in raw texts. -/
theorem harmless_applyFilter {library : Library} {name : String} {value : Value}
    (sound : library.Harmless) (other : name ≠ "raw") (harmless : value.Harmless) :
    Answer.Harmless (applyFilter library name value) := by
  unfold applyFilter
  split
  · exact .ok (Value.harmless_escapeHtml value)
  · exact .ok (.text _)
  · exact absurd rfl other
  · exact Library.harmless_call sound (List.forall_mem_singleton.mpr harmless)

theorem harmless_itemsOf {value : Value} (harmless : value.Harmless) :
    ∀ item ∈ itemsOf value, item.Harmless := by
  cases harmless with
  | list each => exact each
  | _ => exact nofun

/-! ## Worlds -/

/-- Neither the raw texts in the slots nor the text that was written has markup. -/
structure World.Harmless (world : World σ) : Prop where
  slots : ∀ value ∈ world.slots, value.Harmless
  written : Text.Harmless world.written.toList

namespace World.Harmless

variable {world : World σ} {slot : Nat} {value : Value}

theorem load (harmless : world.Harmless) (slot : Nat) : (world.load slot).Harmless :=
  .getElem? harmless.slots slot

theorem save (harmless : world.Harmless) (harmless' : value.Harmless) :
    (world.save slot value).Harmless := by
  refine ⟨?_, harmless.written⟩
  intro other inside
  unfold World.save Machine.setSlot at inside
  dsimp only at inside
  split at inside
  · obtain inside | rfl := List.mem_or_eq_of_mem_set inside
    · exact harmless.slots other inside
    · exact harmless'
  · obtain inside | inside := List.mem_append.mp inside
    · obtain inside | inside := List.mem_append.mp inside
      · exact harmless.slots other inside
      · obtain rfl := List.eq_of_mem_replicate inside
        exact .nil
    · obtain rfl := List.mem_singleton.mp inside
      exact harmless'

theorem write {text : String} (harmless : world.Harmless) (plain : Text.Harmless text.toList) :
    (world.write text).Harmless := by
  refine ⟨harmless.slots, ?_⟩
  unfold World.write
  dsimp only
  rw [String.toList_append]
  exact harmless.written.append plain

/-- What is printed is escaped, unless it is raw and has no markup. -/
theorem print {context : Context} (harmless : world.Harmless) (harmless' : value.Harmless) :
    (world.print context value).Harmless := by
  cases harmless' with
  | nil => exact ⟨harmless.slots, harmless.written⟩
  | raw plain => exact harmless.write plain
  | _ => exact harmless.write (Text.Html.harmless_escape _)

end World.Harmless

/-! ## Actions -/

/-- An action that keeps the world harmless, even where it fails, and whose value is good. -/
def Safe (good : α → Prop) (action : Action σ α) : Prop :=
  ∀ world, world.Harmless → ∀ result after, action world = some (result, after) →
    after.Harmless ∧ ∀ value, result = .ok value → good value

/-- What a context passes on has no markup in raw texts, and what it can call brings in none. -/
structure Context.Harmless (context : Context) : Prop where
  bindings : ∀ entries ∈ context.bindings, ∀ entry ∈ entries, entry.2.Harmless
  definitions : ∀ name definition, context.definitions name = some definition →
    ∀ inner ∈ Node.walkAll definition.body, inner.Escaping

/-- The library, the variables and the templates bring in no markup, and neither do callees. -/
structure Guarded (surroundings : Surroundings σ) (render? : Option (Renderer σ)) : Prop where
  library : surroundings.library.Harmless
  vars : ∀ entry ∈ surroundings.vars, entry.2.Harmless
  trees : ∀ find ∈ surroundings.trees, ∀ name store template after,
    find name store = (.ok template, after) → template.Escaping
  render : ∀ render ∈ render?, ∀ context nodes, context.Harmless →
    (∀ inner ∈ Node.walkAll nodes, inner.Escaping) → Safe (fun _ => True) (render context nodes)

theorem Context.Harmless.lookup {context : Context} {vars : Dictionary Value}
    (harmless : context.Harmless) (harmless' : ∀ entry ∈ vars, entry.2.Harmless) (name : String) :
    (context.lookup vars name).Harmless := by
  refine .getD fun value found => ?_
  obtain found | ⟨_, found⟩ := Option.or_eq_some_iff.mp found
  · obtain ⟨entries, listed, found⟩ := List.exists_of_findSome?_eq_some found
    exact Dictionary.harmless_find? (harmless.bindings entries listed) value found
  · exact Dictionary.harmless_find? harmless' value found

/-- A template that brings in no markup, included with bindings that have none. -/
theorem Context.Harmless.inTemplate {context : Context} {template : Template}
    {bindings : Option (Dictionary Value)} (harmless : context.Harmless) (name : String)
    (escaping : template.Escaping) (passed : ∀ entries ∈ bindings, ∀ entry ∈ entries,
      entry.2.Harmless) : (context.inTemplate name template bindings).Harmless := by
  constructor
  · intro entries inside
    obtain inside | inside := List.mem_append.mp inside
    · exact passed entries (Option.mem_toList.mp inside)
    · exact harmless.bindings entries inside
  · intro other definition defined inner inside
    exact escaping inner (mem_walkAll_of_definition? defined inner inside)

theorem Context.harmless_ofTemplate {template : Template} (escaping : template.Escaping) :
    (Context.ofTemplate template).Harmless :=
  ⟨nofun, fun _ _ defined inner inside =>
    escaping inner (mem_walkAll_of_definition? defined inner inside)⟩

namespace Safe

variable {good : α → Prop} {good' : β → Prop} {context : Context}

theorem pure {value : α} (fine : good value) : Safe good (Pure.pure value : Action σ α) := by
  rintro world harmless _ _ ⟨⟩
  refine ⟨harmless, ?_⟩
  rintro _ ⟨⟩
  exact fine

theorem bind {action : Action σ α} {further : α → Action σ β} (safe : Safe good action)
    (safe' : ∀ value, good value → Safe good' (further value)) :
    Safe good' (action >>= further) := by
  intro world harmless result after acted
  cases begun : action world with
  | none =>
      rw [Action.bind_none begun] at acted
      cases acted
  | some outcome =>
      obtain ⟨first, between⟩ := outcome
      obtain ⟨kept, fine⟩ := safe world harmless first between begun
      cases first with
      | error failure =>
          rw [Action.bind_error begun] at acted
          cases acted
          exact ⟨kept, nofun⟩
      | ok value =>
          rw [Action.bind_ok begun] at acted
          exact safe' value (fine value rfl) between kept result after acted

theorem ite {condition : Prop} [Decidable condition] {first second : Action σ α}
    (safe : Safe good first) (safe' : Safe good second) :
    Safe good (if condition then first else second) := by
  split
  · exact safe
  · exact safe'

theorem fail (fault : Fault) : Safe good (Meaning.fail context fault : Action σ α) := by
  rintro world harmless _ _ ⟨⟩
  exact ⟨harmless, nofun⟩

theorem endless : Safe good (Meaning.endless : Action σ α) := by
  rintro world harmless _ _ ⟨⟩

theorem answered {answer : Answer} (harmless : Answer.Harmless answer) :
    Safe Value.Harmless (Meaning.answered context answer : Action σ Value) := by
  cases harmless with
  | ok harmless => exact pure harmless
  | error fault => exact fail fault

theorem change {effect : World σ → World σ}
    (keeps : ∀ world, world.Harmless → (effect world).Harmless) :
    Safe (fun _ => True) (Meaning.change effect) := by
  rintro world harmless _ _ ⟨⟩
  exact ⟨keeps world harmless, fun _ _ => trivial⟩

theorem load (slot : Nat) : Safe Value.Harmless (Meaning.load slot : Action σ Value) := by
  rintro world harmless _ _ ⟨⟩
  refine ⟨harmless, ?_⟩
  rintro _ ⟨⟩
  exact harmless.load slot

theorem save {slot : Nat} {value : Value} (harmless : value.Harmless) :
    Safe (fun _ => True) (Meaning.save slot value : Action σ Unit) :=
  change fun _ kept => kept.save harmless

theorem warn (warning : Machine.Warning) :
    Safe (fun _ => True) (Meaning.change fun world : World σ => world.warn warning) :=
  change fun _ kept => ⟨kept.slots, kept.written⟩

theorem loopState (slot : Nat) :
    Safe Value.Harmless (Meaning.loopState slot : Action σ Value) := by
  rintro world harmless _ _ ⟨⟩
  refine ⟨⟨harmless.slots, harmless.written⟩, ?_⟩
  rintro _ ⟨⟩
  exact .object _ (Object.harmless_loopAt (harmless_itemsOf (harmless.load (slot + 2))) _)

/-- A text that is caught has no markup, and neither has the text that was written before. -/
theorem captured {action : Action σ Unit} (safe : Safe (fun _ => True) action) :
    Safe (fun text : String => Text.Harmless text.toList) (Meaning.captured action) := by
  intro world harmless result after acted
  -- the action starts with nothing written, and what was written before comes back after it
  have fresh : World.Harmless { world with written := "" } := ⟨harmless.slots, .nil⟩
  unfold Meaning.captured at acted
  split at acted
  · cases acted
  · next failure inner begun =>
      cases acted
      obtain ⟨kept, _⟩ := safe _ fresh _ inner begun
      exact ⟨⟨kept.slots, harmless.written⟩, nofun⟩
  · next inner begun =>
      cases acted
      obtain ⟨kept, _⟩ := safe _ fresh _ inner begun
      refine ⟨⟨kept.slots, harmless.written⟩, ?_⟩
      rintro _ ⟨⟩
      exact kept.written

/-! ## Loops -/

section

variable {slot max : Nat} {body : Action σ Unit}

theorem forAll {items : List Value} (rounds : Nat) (harmless : ∀ item ∈ items, item.Harmless)
    (safe : Safe (fun _ => True) body) :
    Safe (fun _ => True) (Meaning.forAll context slot max items body rounds) := by
  have loop (last : Int64) :
      Safe (fun _ => True) (forRounds context slot max items body rounds last) := by
    induction rounds generalizing last with
    | zero => exact endless
    | succ rounds ih =>
        unfold forRounds
        dsimp only
        split
        · exact pure trivial
        · next item found =>
            refine ite (warn _) ?_
            refine (save (harmless item (List.mem_of_getElem? found))).bind fun _ _ => ?_
            exact (save (.int _)).bind fun _ _ => safe.bind fun _ _ => ih _
  exact (save .nil).bind fun _ _ => (save (.int _)).bind fun _ _ =>
    (save (.list harmless)).bind fun _ _ => loop _

theorem whileTrue {condition : Action σ Value} (rounds : Nat)
    (safe : Safe Value.Harmless condition) (safe' : Safe (fun _ => True) body) :
    Safe (fun _ => True) (Meaning.whileTrue context slot max condition body rounds) := by
  have loop (last : Int64) :
      Safe (fun _ => True) (whileRounds context slot max condition body rounds last) := by
    induction rounds generalizing last with
    | zero => exact endless
    | succ rounds ih =>
        refine safe.bind fun test _ => ite ?_ (pure trivial)
        refine (save (.int _)).bind fun _ _ => ite ?_ (warn _)
        exact safe'.bind fun _ _ => ih _
  exact (save (.int _)).bind fun _ _ => loop _

end

/-! ## Calls -/

variable {surroundings : Surroundings σ} {render? : Option (Renderer σ)}

/-- A callee has slots of its own, and those of its caller stay as they are. -/
theorem call (guarded : Guarded surroundings render?) (callee : String) {inner : Context}
    {slots : List Value} {nodes : List Node} (harmless : inner.Harmless)
    (given : ∀ value ∈ slots, value.Harmless)
    (escaping : ∀ node ∈ Node.walkAll nodes, node.Escaping) :
    Safe (fun _ => True) (Meaning.call surroundings render? context callee inner slots nodes) := by
  cases render? with
  | none => exact fail _
  | some render =>
      intro world kept result after acted
      have begun : World.Harmless { world with slots } := ⟨given, kept.written⟩
      obtain ⟨⟨_, last⟩, ran, same⟩ := Option.map_eq_some_iff.mp acted
      cases same
      obtain ⟨left, _⟩ := guarded.render render rfl inner nodes harmless escaping _ begun _ last ran
      exact ⟨⟨kept.slots, left.written⟩, fun _ _ => trivial⟩

theorem callMacro (guarded : Guarded surroundings render?) (harmless : context.Harmless)
    (name : String) {arguments : List Value} (given : ∀ value ∈ arguments, value.Harmless) :
    Safe Value.Harmless (Meaning.callMacro surroundings render? context name arguments) := by
  unfold Meaning.callMacro
  split
  · exact fail _
  · next definition defined =>
      have inside : (context.inMacro name).Harmless := ⟨harmless.bindings, harmless.definitions⟩
      refine ite (fail _) (bind (captured ?_) fun text plain => pure (.raw plain))
      exact call guarded _ inside given (harmless.definitions name definition defined)

theorem runTemplate (guarded : Guarded surroundings render?) (harmless : context.Harmless)
    (name : String) {bindings : Option (Dictionary Value)}
    (passed : ∀ entries ∈ bindings, ∀ entry ∈ entries, entry.2.Harmless) :
    Safe (fun _ => True) (Meaning.runTemplate surroundings render? context name bindings) := by
  unfold Meaning.runTemplate
  split
  · exact fail _
  · next find present =>
      intro world kept result after acted
      dsimp only at acted
      split at acted
      · cases acted
        exact ⟨⟨kept.slots, kept.written⟩, nofun⟩
      · next template store found =>
          have begun : World.Harmless { world with store } := ⟨kept.slots, kept.written⟩
          have escaping := guarded.trees find present name world.store template store found
          have inside := harmless.inTemplate name escaping passed
          exact call guarded _ inside (List.forall_mem_nil _) escaping _ begun result after acted

end Safe

/-! ## Nodes -/

section

variable {surroundings : Surroundings σ} {render? : Option (Renderer σ)} {context : Context}

mutual

/-- The value of an expression has no markup in raw texts. -/
theorem safe_expression (guarded : Guarded surroundings render?) (harmless : context.Harmless) :
    ∀ node : Node, (∀ inner ∈ node.walk, inner.Escaping) →
      Safe Value.Harmless (expression surroundings render? context node)
  | .int .., _ => .pure (.int _)
  | .uint .., _ => .pure (.uint _)
  | .float .., _ => .pure (.float _)
  | .string .., _ => .pure (.text _)
  | .bool .., _ => .pure (.bool _)
  | .nil _, _ => .pure .nil
  | .localVar _ _ slot, _ => .load slot
  | .symbol _ name, _ => .pure (harmless.lookup guarded.vars name)
  | .loopVar _ slot, _ => .loopState slot
  | .field _ container _, inside => by
      simp only [Node.walk, List.forall_mem_cons] at inside
      exact (safe_expression guarded harmless container inside.2).bind fun _ fine =>
        .answered (Library.harmless_fetchField guarded.library fine)
  | .index _ container position, inside => by
      simp only [Node.walk, List.forall_mem_cons, List.forall_mem_append] at inside
      exact (safe_expression guarded harmless container inside.2.1).bind fun _ fine =>
        (safe_expression guarded harmless position inside.2.2).bind fun _ _ =>
          .pure (Library.harmless_fetchElement guarded.library fine)
  | .methodCall _ invocant _ arguments, inside => by
      simp only [Node.walk, List.forall_mem_cons, List.forall_mem_append] at inside
      exact (safe_expression guarded harmless invocant inside.2.1).bind fun _ fine =>
        (safe_each guarded harmless arguments inside.2.2).bind fun _ given =>
          .answered (Library.harmless_callMethod guarded.library fine given)
  | .functionCall _ _ arguments, inside => by
      simp only [Node.walk, List.forall_mem_cons] at inside
      exact (safe_each guarded harmless arguments inside.2).bind fun _ given =>
        .answered (Library.harmless_call guarded.library given)
  | .macroCall _ _ arguments, inside => by
      simp only [Node.walk, List.forall_mem_cons] at inside
      exact (safe_each guarded harmless arguments inside.2).bind fun _ given =>
        .callMacro guarded harmless _ given
  | .filter _ operand name, inside => by
      simp only [Node.walk, List.forall_mem_cons] at inside
      exact (safe_expression guarded harmless operand inside.2).bind fun _ fine =>
        .answered (harmless_applyFilter guarded.library inside.1 fine)
  | .unary _ _ operand, inside => by
      simp only [Node.walk, List.forall_mem_cons] at inside
      exact (safe_expression guarded harmless operand inside.2).bind fun _ _ =>
        .pure (harmless_operateOne _ _)
  | .binary _ op left right, inside => by
      simp only [Node.walk, List.forall_mem_cons, List.forall_mem_append] at inside
      exact (safe_expression guarded harmless left inside.2.1).bind fun _ fine =>
        .ite (.pure fine) ((safe_expression guarded harmless right inside.2.2).bind fun _ fine' =>
          .answered (harmless_operate fine fine' op))
  | .assign _ _ _ value, inside => by
      simp only [Node.walk, List.forall_mem_cons] at inside
      exact (safe_expression guarded harmless value inside.2).bind fun _ fine =>
        (Safe.save fine).bind fun _ _ => .pure fine
  | .list _ items, inside => by
      simp only [Node.walk, List.forall_mem_cons] at inside
      exact (safe_each guarded harmless items inside.2).bind fun _ given => .pure (.list given)
  | .range _ first last, inside => by
      simp only [Node.walk, List.forall_mem_cons, List.forall_mem_append] at inside
      exact (safe_expression guarded harmless first inside.2.1).bind fun _ _ =>
        (safe_expression guarded harmless last inside.2.2).bind fun _ _ =>
          .answered (harmless_integersOf _ _ _)
  | .text .., _ | .print .., _ | .discard .., _ | .conditional .., _ | .forLoop .., _
  | .whileLoop .., _ | .macroDef .., _ | .inclusion .., _ | .wrapper .., _ => .pure .nil

theorem safe_each (guarded : Guarded surroundings render?) (harmless : context.Harmless) :
    ∀ nodes : List Node, (∀ inner ∈ Node.walkAll nodes, inner.Escaping) →
      Safe (fun values : List Value => ∀ value ∈ values, value.Harmless)
        (each surroundings render? context nodes)
  | [], _ => .pure (List.forall_mem_nil _)
  | first :: rest, inside => by
      simp only [Node.walkAll, List.forall_mem_append] at inside
      exact (safe_expression guarded harmless first inside.1).bind fun _ fine =>
        (safe_each guarded harmless rest inside.2).bind fun _ others =>
          .pure (List.forall_mem_cons.mpr ⟨fine, others⟩)

theorem safe_eachBound (guarded : Guarded surroundings render?) (harmless : context.Harmless) :
    ∀ bound : List (String × Node), (∀ inner ∈ Node.walkBindings bound, inner.Escaping) →
      Safe (fun entries : List (String × Value) => ∀ entry ∈ entries, entry.2.Harmless)
        (eachBound surroundings render? context bound)
  | [], _ => .pure (List.forall_mem_nil _)
  | (_, first) :: rest, inside => by
      simp only [Node.walkBindings, List.forall_mem_append] at inside
      exact (safe_expression guarded harmless first inside.1).bind fun _ fine =>
        (safe_eachBound guarded harmless rest inside.2).bind fun _ others =>
          .pure (List.forall_mem_cons.mpr ⟨fine, others⟩)

end

theorem safe_passed (guarded : Guarded surroundings render?) (harmless : context.Harmless)
    {bound : List (String × Node)} (inside : ∀ inner ∈ Node.walkBindings bound, inner.Escaping) :
    Safe (fun bindings => ∀ entries ∈ bindings, ∀ entry ∈ entries, entry.2.Harmless)
      (passed surroundings render? context bound) := by
  refine .ite (.pure nofun) ((safe_eachBound guarded harmless bound inside).bind fun _ fine => ?_)
  refine .pure ?_
  rintro _ ⟨⟩
  exact Dictionary.harmless_ofList fine

/-- The bindings of a wrapped text: those passed along, and the text as it was caught. -/
theorem harmless_insert_content {bindings : Option (Dictionary Value)} {content : String}
    (fine : ∀ entries ∈ bindings, ∀ entry ∈ entries, entry.2.Harmless)
    (plain : Text.Harmless content.toList) :
    ∀ entries ∈ some ((bindings.getD []).insert "content" (.raw content)), ∀ entry ∈ entries,
      entry.2.Harmless := by
  rintro _ ⟨⟩
  refine Dictionary.harmless_insert ?_ (.raw plain)
  cases bindings with
  | none => exact nofun
  | some entries => exact fine entries rfl

mutual

/-- A statement writes no markup. -/
theorem safe_statement (guarded : Guarded surroundings render?) (harmless : context.Harmless)
    (rounds : Nat) : ∀ node : Node, (∀ inner ∈ node.walk, inner.Escaping) →
      Safe (fun _ => True) (statement surroundings render? context rounds node)
  | .text _ content, inside =>
      .change fun _ kept => kept.write (inside _ List.mem_cons_self)
  | .print _ operand, inside => by
      simp only [Node.walk, List.forall_mem_cons] at inside
      exact (safe_expression guarded harmless operand inside.2).bind fun _ fine =>
        .change fun _ kept => kept.print fine
  | .discard _ operand, inside => by
      simp only [Node.walk, List.forall_mem_cons] at inside
      exact (safe_expression guarded harmless operand inside.2).bind fun _ _ => .pure trivial
  | .conditional _ condition positive negative, inside => by
      simp only [Node.walk, List.forall_mem_cons, List.forall_mem_append] at inside
      obtain ⟨_, ⟨test, first⟩, second⟩ := inside
      exact (safe_expression guarded harmless condition test).bind fun _ _ =>
        .ite (safe_block guarded harmless rounds positive first)
          (safe_block guarded harmless rounds negative second)
  | .forLoop _ _ _ source body _, inside => by
      simp only [Node.walk, List.forall_mem_cons, List.forall_mem_append] at inside
      obtain ⟨_, list, inner⟩ := inside
      exact (safe_expression guarded harmless source list).bind fun _ fine =>
        .forAll rounds (harmless_itemsOf fine) (safe_block guarded harmless rounds body inner)
  | .whileLoop _ condition body _ _, inside => by
      simp only [Node.walk, List.forall_mem_cons, List.forall_mem_append] at inside
      obtain ⟨_, test, inner⟩ := inside
      exact .whileTrue rounds (safe_expression guarded harmless condition test)
        (safe_block guarded harmless rounds body inner)
  | .macroDef .., _ => .pure trivial
  | .inclusion _ template bound, inside => by
      simp only [Node.walk, List.forall_mem_cons, List.forall_mem_append] at inside
      obtain ⟨_, name, passed⟩ := inside
      exact (safe_expression guarded harmless template name).bind fun _ _ =>
        (safe_passed guarded harmless passed).bind fun _ fine =>
          .runTemplate guarded harmless _ fine
  | .wrapper _ template bound body, inside => by
      simp only [Node.walk, List.forall_mem_cons, List.forall_mem_append] at inside
      obtain ⟨_, ⟨inner, name⟩, passed⟩ := inside
      exact (Safe.captured (safe_block guarded harmless rounds body inner)).bind fun _ plain =>
        (safe_expression guarded harmless template name).bind fun _ _ =>
          (safe_passed guarded harmless passed).bind fun _ fine =>
            .runTemplate guarded harmless _ (harmless_insert_content fine plain)
  | .int .., inside | .uint .., inside | .float .., inside | .string .., inside
  | .bool .., inside | .nil _, inside | .localVar .., inside | .symbol .., inside
  | .loopVar .., inside | .field .., inside | .index .., inside | .methodCall .., inside
  | .functionCall .., inside | .macroCall .., inside | .filter .., inside | .unary .., inside
  | .binary .., inside | .assign .., inside | .list .., inside | .range .., inside =>
      (safe_expression guarded harmless _ inside).bind fun _ _ => .pure trivial

theorem safe_block (guarded : Guarded surroundings render?) (harmless : context.Harmless)
    (rounds : Nat) : ∀ nodes : List Node, (∀ inner ∈ Node.walkAll nodes, inner.Escaping) →
      Safe (fun _ => True) (block surroundings render? context rounds nodes)
  | [], _ => .pure trivial
  | first :: rest, inside => by
      simp only [Node.walkAll, List.forall_mem_append] at inside
      exact (safe_statement guarded harmless rounds first inside.1).bind fun _ _ =>
        safe_block guarded harmless rounds rest inside.2

end

/-- Callees write no markup however deep they are called, since each is called less deep. -/
theorem safe_renderWithin (rounds deeper : Nat) (guarded : Guarded surroundings none)
    {context : Context} (harmless : context.Harmless) {nodes : List Node}
    (escaping : ∀ inner ∈ Node.walkAll nodes, inner.Escaping) :
    Safe (fun _ => True) (renderWithin surroundings rounds deeper context nodes) := by
  induction deeper generalizing context nodes with
  | zero => exact safe_block guarded harmless rounds nodes escaping
  | succ deeper ih =>
      have deep : Guarded surroundings (some (renderWithin surroundings rounds deeper)) := by
        refine ⟨guarded.library, guarded.vars, guarded.trees, ?_⟩
        rintro _ ⟨⟩ context nodes harmless escaping
        exact ih harmless escaping
      exact safe_block deep harmless rounds nodes escaping

/-- What rendering shows has no markup, however it ends. -/
theorem harmless_render {rounds : Nat} {template : Template} {store after : σ}
    {report : Machine.Report} (guarded : Guarded surroundings none) (escaping : template.Escaping)
    (rendered : render surroundings rounds template store = some (report, after)) :
    Text.Harmless report.output.toList := by
  obtain ⟨⟨_, last⟩, acted, shown⟩ := Option.map_eq_some_iff.mp rendered
  cases shown
  have begun : World.Harmless (⟨[], "", 0, #[], store⟩ : World σ) :=
    ⟨List.forall_mem_nil _, .nil⟩
  have safe := safe_renderWithin rounds surroundings.limits.maxDepth guarded
    (Context.harmless_ofTemplate escaping) escaping
  exact (safe _ begun _ last acted).1.written

end

end Meaning

end Stencil

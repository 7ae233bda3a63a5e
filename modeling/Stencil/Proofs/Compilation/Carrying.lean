import Stencil.Proofs.Compilation.Statements
import Stencil.Proofs.Value.Links

/-!
# Nodes that hand a text on

Which expressions and statements are chains of links, through macros and templates, and what they
stand for or write. Nothing else comes of them than the text, whatever the world is that they are
rendered in.
-/

namespace Stencil

/-! ## Methods and filters -/

/-- The filters that links are made of are the built-in ones. -/
def Library.Standard (library : Library) : Prop :=
  ∀ name ∈ ["trim", "join"], library.functions name = Function.builtin? name

theorem Library.Standard.trim {library : Library} (standard : Library.Standard library)
    (value : Value) : Meaning.applyFilter library "trim" value = .ok (Link.trim.on value) := by
  show library.call "trim" [value] = _
  unfold Library.call
  rw [standard "trim" (by decide)]
  rfl

theorem Value.join_single (separator : String) (value : Value) :
    (Value.list [value]).join separator = .ok (Link.join.on value) := by
  simp only [Value.join, List.map_cons, List.map_nil, String.intercalate_singleton, Link.on]

theorem Library.Standard.join {library : Library} (standard : Library.Standard library)
    (value : Value) :
    Meaning.applyFilter library "join" (.list [value]) = .ok (Link.join.on value) := by
  show library.call "join" [.list [value]] = _
  unfold Library.call
  rw [standard "join" (by decide)]
  exact Value.join_single "" value

namespace Meaning

open Machine.Scene (calleesWithin)

variable {σ α β : Type}

/-! ## Actions that leave no trace -/

/-- In worlds with these slots the action has a value and changes nothing but the store. -/
def Gives (slots : List Value) (action : Action σ α) (value : α) : Prop :=
  ∀ world, world.slots = slots →
    ∃ store, action world = some (.ok value, { world with store })

/-- In worlds with these slots the action writes a text and changes nothing else but the store. -/
def Writes (slots : List Value) (action : Action σ Unit) (text : String) : Prop :=
  ∀ world, world.slots = slots → ∃ store,
    action world = some (.ok (), { world with written := world.written ++ text, store })

variable {slots : List Value} {action : Action σ α} {value : α} {text : String}

theorem Gives.pure (value : α) : Gives slots (Pure.pure value : Action σ α) value :=
  fun world _ => ⟨world.store, rfl⟩

theorem Gives.bind {further : α → Action σ β} {result : β} (gives : Gives slots action value)
    (gives' : Gives slots (further value) result) : Gives slots (action >>= further) result := by
  intro world same
  obtain ⟨store, acted⟩ := gives world same
  obtain ⟨store', acted'⟩ := gives' { world with store } same
  exact ⟨store', (Action.bind_ok acted).trans acted'⟩

theorem Writes.after {further : α → Action σ Unit} (gives : Gives slots action value)
    (writes : Writes slots (further value) text) : Writes slots (action >>= further) text := by
  intro world same
  obtain ⟨store, acted⟩ := gives world same
  obtain ⟨store', acted'⟩ := writes { world with store } same
  exact ⟨store', (Action.bind_ok acted).trans acted'⟩

theorem Writes.pure : Writes (σ := σ) slots (Pure.pure ()) "" :=
  fun world _ => ⟨world.store, by rw [String.append_empty]; rfl⟩

theorem Writes.bind {action action' : Action σ Unit} {text' : String}
    (writes : Writes slots action text) (writes' : Writes slots action' text') :
    Writes slots (do action; action') (text ++ text') := by
  intro world same
  obtain ⟨store, acted⟩ := writes world same
  obtain ⟨store', acted'⟩ :=
    writes' { world with written := world.written ++ text, store } same
  refine ⟨store', (Action.bind_ok acted).trans (acted'.trans ?_)⟩
  rw [String.append_assoc]

theorem Gives.captured {action : Action σ Unit} (writes : Writes slots action text) :
    Gives slots (captured action) text := by
  intro world same
  obtain ⟨store, acted⟩ := writes { world with written := "" } same
  refine ⟨store, ?_⟩
  simp only [Meaning.captured, acted, String.empty_append]

theorem writes_change {effect : World σ → World σ}
    (writes : ∀ world, effect world = world.write text) : Writes slots (change effect) text :=
  fun world _ => ⟨world.store, by rw [change, writes]; rfl⟩

theorem writes_print (context : Context) {value : Value} (textual : value.Textual) :
    Writes (σ := σ) slots (change (·.print context value)) value.printed := by
  refine writes_change fun world => ?_
  obtain ⟨s, rfl | rfl⟩ := textual <;> rfl

/-! ## Nodes -/

section

variable (surroundings : Surroundings σ)

/-- The value of a literal or of a variable. -/
def given? (context : Context) (slots : List Value) : Node → Option Value
  | .int _ n => some (.int n)
  | .uint _ n => some (.uint n)
  | .float _ x => some (.float x)
  | .string _ s => some (.text s)
  | .bool _ b => some (.bool b)
  | .nil _ => some .nil
  | .localVar _ _ slot => some (slots[slot]?.getD .nil)
  | .symbol _ name => some (context.lookup surroundings.vars name)
  | _ => none

/-- Literals or variables have these values. -/
def Given (context : Context) (slots : List Value) : List Node → List Value → Prop :=
  List.Forall₂ fun node value => given? surroundings context slots node = some value

/-- Bindings to literals or variables are these ones. -/
def Bound (context : Context) (slots : List Value) :
    List (String × Node) → List (String × Value) → Prop :=
  List.Forall₂ fun entry bound =>
    bound.1 = entry.1 ∧ given? surroundings context slots entry.2 = some bound.2

/-- Apart from its macros, the only node of the tree that is found under a name, whatever has been
found before. -/
def Finds (name : String) (tree : Template) (inner : Node) : Prop :=
  ∃ find, surroundings.trees = some find ∧
    (∀ store, ∃ after, find name store = (.ok tree, after)) ∧
    ∃ macros, tree.nodes = macros ++ [inner] ∧
      ∀ node ∈ macros, ∃ place name parameters body, node = .macroDef place name parameters body

end

/-- The texts that some nodes consist of. -/
def textOf? : List Node → Option String
  | [] => some ""
  | .text _ s :: rest => (textOf? rest).map (s ++ ·)
  | _ => none

/-- How an element is taken out of a list. -/
def taking? : Link → Option String
  | .first => some "first"
  | .last => some "last"
  | .join => some "join"
  | _ => none

/-- What a node is there for. -/
inductive Role where
  /-- To stand for a value. -/
  | operand
  /-- To print one. -/
  | printing

/-- A node that hands a value on along a chain of links, in a context and with the slots there,
where calls are nested at most so deep. -/
inductive Hands (surroundings : Surroundings σ) :
    Role → Nat → Context → List Value → Value → List Link → Node → Prop where
  /-- The text is escaped here. -/
  | escaped {deep context slots original place node}
      (given : given? surroundings context slots node = some original) :
      Hands surroundings .operand deep context slots original.escapeHtml []
        (.filter place node "html")
  /-- The text comes from elsewhere. -/
  | given {deep context slots value node}
      (given : given? surroundings context slots node = some value) :
      Hands surroundings .operand deep context slots value [] node
  | html {deep context slots value chain place node}
      (hands : Hands surroundings .operand deep context slots value chain node) :
      Hands surroundings .operand deep context slots value (chain ++ [Link.html])
        (.filter place node "html")
  | trim {deep context slots value chain place node}
      (hands : Hands surroundings .operand deep context slots value chain node) :
      Hands surroundings .operand deep context slots value (chain ++ [Link.trim])
        (.filter place node "trim")
  | ahead {deep context slots value chain other place place' piece node}
      (given : given? surroundings context slots piece = some other)
      (hands : Hands surroundings .operand deep context slots value chain node) :
      Hands surroundings .operand deep context slots value (chain ++ [Link.ahead other])
        (.binary place .concat (.filter place' piece "html") node)
  | behind {deep context slots value chain other place place' piece node}
      (given : given? surroundings context slots piece = some other)
      (hands : Hands surroundings .operand deep context slots value chain node) :
      Hands surroundings .operand deep context slots value (chain ++ [Link.behind other])
        (.binary place .concat node (.filter place' piece "html"))
  | method {deep context slots value chain link name place place' node}
      (taking : taking? link = some name)
      (hands : Hands surroundings .operand deep context slots value chain node) :
      Hands surroundings .operand deep context slots value (chain ++ [link])
        (.methodCall place (.list place' [node]) name [])
  | field {deep context slots value chain link name place place' node}
      (taking : taking? link = some name)
      (hands : Hands surroundings .operand deep context slots value chain node) :
      Hands surroundings .operand deep context slots value (chain ++ [link])
        (.field place (.list place' [node]) name)
  | separated {deep context slots value chain other place place' separator node}
      (given : given? surroundings context slots separator = some other)
      (hands : Hands surroundings .operand deep context slots value chain node) :
      Hands surroundings .operand deep context slots value (chain ++ [Link.join])
        (.methodCall place (.list place' [node]) "join" [separator])
  | joined {deep context slots value chain place place' node}
      (hands : Hands surroundings .operand deep context slots value chain node) :
      Hands surroundings .operand deep context slots value (chain ++ [Link.join])
        (.filter place (.list place' [node]) "join")
  /-- The text is an argument of a macro, which prints what becomes of it. -/
  | returned {deep context slots value chain chain' front fronts back backs name parameters place
        node inner}
      (hands : Hands surroundings .operand (deep + 1) context slots value chain node)
      (before : Given surroundings context slots front fronts)
      (after : Given surroundings context slots back backs)
      (defined : context.definitions name = some ⟨parameters, [inner]⟩)
      (counts : parameters.length = (front ++ node :: back).length)
      (hands' : Hands surroundings .printing deep (context.inMacro name)
        (fronts ++ value.along chain :: backs) (value.along chain) chain' inner) :
      Hands surroundings .operand (deep + 1) context slots value
        (chain ++ Link.argument :: (chain' ++ [Link.returned]))
        (.macroCall place name (front ++ node :: back))
  | print {deep context slots value chain place node}
      (hands : Hands surroundings .operand deep context slots value chain node) :
      Hands surroundings .printing deep context slots value chain (.print place node)
  /-- The text is bound to a name for a template, which prints what becomes of it. -/
  | inclusion {deep context slots value chain chain' front fronts back backs key name tree place
        template node inner}
      (hands : Hands surroundings .operand (deep + 1) context slots value chain node)
      (before : Bound surroundings context slots front fronts)
      (after : Bound surroundings context slots back backs)
      (named : given? surroundings context slots template = some name)
      (found : Finds surroundings name.display tree inner)
      (hands' : Hands surroundings .printing deep
        (context.inTemplate name.display tree
          (some (.ofList (fronts ++ (key, value.along chain) :: backs))))
        [] (value.along chain) chain' inner) :
      Hands surroundings .printing (deep + 1) context slots value (chain ++ Link.binding :: chain')
        (.inclusion place template (front ++ (key, node) :: back))
  | wrapper {deep context slots value chain chain' front fronts back backs key name content tree
        place template body node inner}
      (hands : Hands surroundings .operand (deep + 1) context slots value chain node)
      (before : Bound surroundings context slots front fronts)
      (after : Bound surroundings context slots back backs)
      (named : given? surroundings context slots template = some name)
      (wrapped : textOf? body = some content)
      (found : Finds surroundings name.display tree inner)
      (hands' : Hands surroundings .printing deep
        (context.inTemplate name.display tree
          (some (Dictionary.insert "content" (.raw content)
            (.ofList (fronts ++ (key, value.along chain) :: backs)))))
        [] (value.along chain) chain' inner) :
      Hands surroundings .printing (deep + 1) context slots value (chain ++ Link.binding :: chain')
        (.wrapper place template (front ++ (key, node) :: back) body)

/-! ## What they come to -/

section

variable {surroundings : Surroundings σ} {context : Context} {render? : Option (Renderer σ)}

theorem gives_given {node : Node} {value : Value}
    (given : given? surroundings context slots node = some value) :
    Gives slots (expression surroundings render? context node) value := by
  cases node with
  | localVar place name slot =>
      rintro world rfl
      cases given
      rw [expression]
      exact ⟨world.store, rfl⟩
  | int | uint | float | string | bool | nil | symbol =>
      cases given
      rw [expression]
      exact .pure _
  | _ => cases given

theorem gives_each {nodes : List Node} {values : List Value}
    (given : List.Forall₂ (fun node => Gives slots (expression surroundings render? context node))
      nodes values) :
    Gives slots (each surroundings render? context nodes) values := by
  induction given with
  | nil =>
      rw [each]
      exact .pure _
  | cons gives _ ih =>
      rw [each]
      exact gives.bind (ih.bind (.pure _))

theorem gives_eachBound {bound : List (String × Node)} {entries : List (String × Value)}
    (given : List.Forall₂ (fun entry value => value.1 = entry.1 ∧
      Gives slots (expression surroundings render? context entry.2) value.2) bound entries) :
    Gives slots (eachBound surroundings render? context bound) entries := by
  induction given with
  | nil =>
      rw [eachBound]
      exact .pure _
  | @cons entry value _ _ gives _ ih =>
      obtain ⟨key, node⟩ := entry
      obtain ⟨_, value⟩ := value
      obtain ⟨rfl, gives⟩ := gives
      rw [eachBound]
      exact gives.bind (ih.bind (.pure _))

theorem gives_passed {front back : List (String × Node)} {fronts backs : List (String × Value)}
    {key : String} {node : Node} {value : Value}
    (before : Bound surroundings context slots front fronts)
    (gives : Gives slots (expression surroundings render? context node) value)
    (after : Bound surroundings context slots back backs) :
    Gives slots (passed surroundings render? context (front ++ (key, node) :: back))
      (some (.ofList (fronts ++ (key, value) :: backs))) := by
  have bound {entries : List (String × Node)} {values : List (String × Value)}
      (bound : Bound surroundings context slots entries values) :
      List.Forall₂ (fun entry value => value.1 = entry.1 ∧
        Gives slots (expression surroundings render? context entry.2) value.2) entries values :=
    bound.imp fun _ _ => And.imp_right gives_given
  unfold passed
  rw [if_neg (by simp)]
  exact (gives_eachBound (List.rel_append (bound before)
    (.cons ⟨rfl, gives⟩ (bound after)))).bind (.pure _)

theorem writes_texts {rounds : Nat} {nodes : List Node} {content : String}
    (texts : textOf? nodes = some content) :
    Writes slots (block surroundings render? context rounds nodes) content := by
  fun_induction textOf? nodes generalizing content with
  | case1 =>
      cases texts
      rw [block]
      exact .pure
  | case2 place s rest ih =>
      obtain ⟨others, found, rfl⟩ := Option.map_eq_some_iff.mp texts
      rw [block, statement]
      exact (writes_change fun _ => rfl).bind (ih found)
  | case3 => cases texts

/-- A node behind some macros is all that is rendered. -/
theorem writes_block {rounds : Nat} (macros : List Node) {inner : Node}
    (silent : ∀ node ∈ macros,
      ∃ place name parameters body, node = .macroDef place name parameters body)
    (writes : Writes slots (statement surroundings render? context rounds inner) text) :
    Writes slots (block surroundings render? context rounds (macros ++ [inner])) text := by
  induction macros with
  | nil =>
      rw [List.nil_append, block, block, ← String.append_empty (s := text)]
      exact writes.bind .pure
  | cons first rest ih =>
      obtain ⟨⟨place, name, parameters, body, rfl⟩, others⟩ := List.forall_mem_cons.mp silent
      rw [List.cons_append, block, statement, ← String.empty_append (s := text)]
      exact Writes.pure.bind (ih others)

theorem writes_call {render : Renderer σ} {callee : String} {inner : Context}
    {arguments : List Value} {nodes : List Node}
    (writes : Writes arguments (render inner nodes) text) :
    Writes slots (call surroundings (some render) context callee inner arguments nodes) text := by
  intro world same
  obtain ⟨store, acted⟩ := writes { world with slots := arguments } rfl
  refine ⟨store, ?_⟩
  simp only [call, acted]
  rfl

theorem gives_callMacro {rounds deep : Nat} {name : String} {parameters : List String}
    {inner : Node} {arguments : List Value}
    (defined : context.definitions name = some ⟨parameters, [inner]⟩)
    (counts : parameters.length = arguments.length)
    (writes : Writes arguments (statement surroundings (calleesWithin surroundings rounds deep)
      (context.inMacro name) rounds inner) text) :
    Gives slots (callMacro surroundings (calleesWithin surroundings rounds (deep + 1)) context name
      arguments) (.raw text) := by
  unfold callMacro
  rw [defined]
  dsimp only
  rw [if_neg (not_not.mpr counts)]
  refine (Gives.captured (writes_call ?_)).bind (.pure _)
  rw [Machine.Scene.renderWithin_eq]
  exact writes_block [] nofun writes

theorem writes_runTemplate {rounds deep : Nat} {name : String} {tree : Template} {inner : Node}
    {bindings : Option (Dictionary Value)} (found : Finds surroundings name tree inner)
    (writes : Writes [] (statement surroundings (calleesWithin surroundings rounds deep)
      (context.inTemplate name tree bindings) rounds inner) text) :
    Writes slots (runTemplate surroundings (calleesWithin surroundings rounds (deep + 1)) context
      name bindings) text := by
  obtain ⟨find, trees, finds, macros, nodes, silent⟩ := found
  intro world same
  obtain ⟨store, found⟩ := finds world.store
  have called : Writes slots (call surroundings (calleesWithin surroundings rounds (deep + 1))
      context s!"include '{name}'" (context.inTemplate name tree bindings) [] tree.nodes) text := by
    refine writes_call ?_
    rw [Machine.Scene.renderWithin_eq, nodes]
    exact writes_block macros silent writes
  obtain ⟨store', acted⟩ := called { world with store } same
  refine ⟨store', ?_⟩
  simp only [runTemplate, trees, found]
  exact acted

/-- The only element of a list is taken out as it is, or joined to nothing. -/
theorem method?_of_taking? {link : Link} {name : String} (taking : taking? link = some name)
    (value : Value) : (Value.list [value]).method? name [] = some (.ok (link.on value)) := by
  cases link with
  | first | last =>
      cases taking
      rfl
  | join =>
      cases taking
      exact congrArg some (Value.join_single "" value)
  | _ => cases taking

theorem gives_single {place : Place} {node : Node} {value : Value}
    (gives : Gives slots (expression surroundings render? context node) value) :
    Gives slots (expression surroundings render? context (.list place [node])) (.list [value]) := by
  rw [expression]
  exact (gives_each (.cons gives .nil)).bind (.pure _)

theorem gives_concat {place : Place} {left right : Node} {first second : Value}
    (gives : Gives slots (expression surroundings render? context left) first)
    (gives' : Gives slots (expression surroundings render? context right) second) :
    Gives slots (expression surroundings render? context (.binary place .concat left right))
      (Machine.concatenate first second) := by
  rw [expression]
  exact gives.bind (gives'.bind (.pure _))

theorem gives_escaped {place : Place} {node : Node} {value : Value}
    (gives : Gives slots (expression surroundings render? context node) value) :
    Gives slots (expression surroundings render? context (.filter place node "html"))
      value.escapeHtml := by
  rw [expression]
  exact gives.bind (.pure _)

/-- What comes of a node with a value: an expression stands for it, a statement prints it. -/
def Role.Does (surroundings : Surroundings σ) (rounds deep : Nat) (context : Context)
    (slots : List Value) (node : Node) (value : Value) : Role → Prop
  | .operand =>
      Gives slots (expression surroundings (calleesWithin surroundings rounds deep) context node)
        value
  | .printing =>
      Writes slots (statement surroundings (calleesWithin surroundings rounds deep) context rounds
        node) value.printed

theorem Hands.does (standard : surroundings.library.Standard) {role : Role} {deep : Nat}
    {chain : List Link} {value : Value} {node : Node}
    (hands : Hands surroundings role deep context slots value chain node)
    (textual : value.Textual) (rounds : Nat) :
    role.Does surroundings rounds deep context slots node (value.along chain) := by
  induction hands with
  | escaped given => exact gives_escaped (gives_given given)
  | given given => exact gives_given given
  | html hands ih =>
      rw [Value.along_append]
      exact gives_escaped (ih textual)
  | trim hands ih =>
      rw [Role.Does, expression, Value.along_append]
      refine (ih textual).bind ?_
      rw [standard.trim]
      exact .pure _
  | ahead given hands ih =>
      rw [Value.along_append]
      exact gives_concat (gives_escaped (gives_given given)) (ih textual)
  | behind given hands ih =>
      rw [Value.along_append]
      exact gives_concat (ih textual) (gives_escaped (gives_given given))
  | method taking hands ih =>
      rw [Role.Does, expression, Value.along_append]
      refine (gives_single (ih textual)).bind ((gives_each .nil).bind ?_)
      rw [Library.callMethod_of_method? (method?_of_taking? taking _)]
      exact .pure _
  | field taking hands ih =>
      rw [Role.Does, expression, Value.along_append]
      refine (gives_single (ih textual)).bind ?_
      rw [Library.fetchField, method?_of_taking? taking]
      exact .pure _
      all_goals simp
  | separated given hands ih =>
      rw [Role.Does, expression, Value.along_append]
      refine (gives_single (ih textual)).bind
        ((gives_each (.cons (gives_given given) .nil)).bind ?_)
      rw [Library.callMethod_of_method? rfl, Value.join_single]
      exact .pure _
  | joined hands ih =>
      rw [Role.Does, expression, Value.along_append]
      refine (gives_single (ih textual)).bind ?_
      rw [standard.join]
      exact .pure _
  | returned hands before after defined counts hands' ih ih' =>
      have given := List.rel_append (before.imp fun _ _ => gives_given)
        (.cons (ih textual) (after.imp fun _ _ => gives_given))
      rw [Role.Does, expression, Value.along_returned]
      refine (gives_each given).bind ?_
      exact gives_callMacro defined (counts.trans given.length_eq) (ih' (textual.along _))
  | print hands ih =>
      rw [Role.Does, statement]
      exact .after (ih textual) (writes_print _ (textual.along _))
  | inclusion hands before after named found hands' ih ih' =>
      rw [Role.Does, statement, Value.along_binding]
      refine .after (gives_given named) (.after (gives_passed before (ih textual) after) ?_)
      exact writes_runTemplate found (ih' (textual.along _))
  | wrapper hands before after named wrapped found hands' ih ih' =>
      rw [Role.Does, statement, Value.along_binding]
      refine .after (.captured (writes_texts wrapped)) ?_
      refine .after (gives_given named) (.after (gives_passed before (ih textual) after) ?_)
      exact writes_runTemplate found (ih' (textual.along _))

end

end Meaning

end Stencil

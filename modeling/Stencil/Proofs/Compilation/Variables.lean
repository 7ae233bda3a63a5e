import Stencil.Proofs.Compilation.Compounds
import Stencil.Proofs.Template.Hygiene

/-!
# Variables

What variables read. Whether a name is a slot or is looked up outside is settled once, in the order
of the text. A parameter begins as its argument and any other slot as nil, whether its declaration
is executed or passed over; a slot keeps what was written last. A compound assignment whose name is
declared further up goes on from what it wrote the last time; one that declares its name itself
begins each time with what the name stands for outside.
-/

namespace Stencil.Machine

variable {σ : Type} {environment : Environment σ} {holds : σ → Prop} {state last : State σ}
  {slot count height : Nat} {code : List Op}

/-! ## Slots of new activations -/

/-- What the next instruction passes to the activation that it starts, if it starts one. -/
def State.arguments? (state : State σ) : Option (List Value) :=
  match state.current.ops[state.current.ip]? with
  | some (.callMacro _) => state.popMarked.toOption.map Prod.fst
  | some .inclusion | some .wrapper => some []
  | _ => none

/-- An activation that has just been started has its arguments in its slots and nothing else. -/
structure Begins (state entered : State σ) (arguments : List Value) : Prop where
  base : entered.current.base = state.slots.length
  slots : entered.slots = state.slots ++ arguments
  arity : arguments.length = entered.current.arity

namespace Begins

variable {entered : State σ} {arguments : List Value}

theorem load (begins : Begins state entered arguments) (small : slot < 0x8000000000000000) :
    entered.load slot = (arguments[slot]?).getD .nil := by
  rw [State.load, slotAt_of_lt _ small, begins.base, begins.slots,
    List.getElem?_append_right (Nat.le_add_right _ _), Nat.add_sub_cancel_left]

theorem length (begins : Begins state entered arguments) :
    entered.slots.length = entered.current.base + entered.current.arity := by
  rw [begins.slots, List.length_append, begins.base, begins.arity]

end Begins

theorem begins_of_callMacro {next : State σ} {name : String}
    (found : state.current.ops[state.current.ip]? = some (.callMacro name))
    (called : callMacro environment state name = .running next) :
    ∃ arguments, state.arguments? = some arguments ∧ Begins state next arguments := by
  obtain ⟨arguments, popped, body, taken, known, fitting, _, rfl⟩ := callMacro_cases called
  obtain ⟨operands, marks, rfl⟩ := popMarked_cases taken
  refine ⟨arguments, ?_, rfl, rfl, ?_⟩
  · rw [State.arguments?, found]
    dsimp only
    rw [taken]
    rfl
  · show arguments.length = ((Dictionary.find? state.current.code.macros name).map _).getD 0
    rw [known]
    exact fitting.symm

theorem begins_of_runTemplate {ready next : State σ} {name : String}
    {bindings : Option (Dictionary Value)} (same : ready.slots = state.slots)
    (started : runTemplate environment ready name bindings = .running next) :
    Begins state next [] := by
  obtain ⟨_, _, _, _, _, _, rfl⟩ := runTemplate_cases started
  refine ⟨congrArg List.length same, ?_, rfl⟩
  rw [← same]
  rfl

theorem begins_of_step {next : State σ} {op : Op}
    (found : state.current.ops[state.current.ip]? = some op) (calls : op.calls = true)
    (stepped : step environment state = .running next) :
    ∃ arguments, state.arguments? = some arguments ∧ Begins state next arguments := by
  cases op with
  | callMacro name =>
      rw [step_of_transfer found rfl rfl] at stepped
      exact begins_of_callMacro found stepped
  | inclusion =>
      rw [step_of_transfer found rfl rfl] at stepped
      exact ⟨[], by rw [State.arguments?, found], begins_of_runTemplate (by rfl) stepped⟩
  | wrapper =>
      rw [step_of_transfer found rfl rfl] at stepped
      obtain ⟨content, rest, bindings, _, started⟩ := wrap_cases stepped
      exact ⟨[], by rw [State.arguments?, found], begins_of_runTemplate (by rfl) started⟩
  | _ => cases calls

/-- An activation does not come back to the start of its stream. -/
theorem pos_of_goes {slots : List Nat} {op : Op} {ip target : Nat}
    (confined : Confined slots code) (found : (code ++ [Op.halt])[ip]? = some op)
    (goes : Goes op ip target) : 0 < target := by
  rcases goes with _ | ⟨jumps, reached⟩
  · exact Nat.succ_pos _
  · by_cases inside : ip < code.length
    · rw [List.getElem?_append_left inside] at found
      have ahead := (confined.jumps ip op _ found jumps).1
      have landed := target_eq reached
      omega
    · rw [List.getElem?_append_right (Nat.not_lt.mp inside)] at found
      obtain rfl := List.mem_singleton.mp (List.mem_of_getElem? found)
      cases jumps

/-- Wherever an activation is at its start, it has so many slots as arguments. -/
theorem length_of_step {dialects : Token.Dialect → Prop} {next : State σ}
    (stems : Stems environment dialects holds state)
    (stepped : step environment state = .running next) (begins : next.current.ip = 0) :
    next.slots.length = next.current.base + next.current.arity := by
  obtain ⟨op, found⟩ := op_of_step stepped
  cases effect_of_step found stepped with
  | stays _ works _ =>
      obtain ⟨template, source⟩ := stems.current.source
      obtain ⟨nodes, ops, streams, stream⟩ := stems.current.streams source.built
      obtain ⟨plain, code, emits, fused, rfl⟩ := streams.code
      rw [stream, List.getElem?_toArray] at found
      have ahead := pos_of_goes (fused.confined (Generate.confined_of_emits emits)) found works.goes
      omega
  | enters calls _ =>
      obtain ⟨_, _, begun⟩ := begins_of_step found calls stepped
      exact begun.length
  | leaves _ leaves =>
      obtain ⟨caller, _, current⟩ := leaves.caller
      rw [current] at begins
      cases begins

theorem length_of_path {dialects : Token.Dialect → Prop} {kind : State σ → Prop}
    (compiling : ∀ load ∈ environment.loader, Compiling dialects holds load)
    (stems : Stems environment dialects holds state)
    (path : Path environment kind count state last)
    (length : state.current.ip = 0 →
      state.slots.length = state.current.base + state.current.arity) :
    last.current.ip = 0 → last.slots.length = last.current.base + last.current.arity := by
  induction path with
  | here state => exact length
  | step _ stepped _ ih => exact ih (stems.step compiling stepped) (length_of_step stems stepped)

/-! ## Reads -/

/-- What a variable reads as in a state of the machine. -/
def State.variable? (vars : Dictionary Value) (state : State σ) : Node → Option Value
  | .localVar _ _ slot => some (state.load slot)
  | .symbol _ name => some (state.lookup vars name)
  | _ => none

theorem step_variable {node : Node} {value : Value}
    (reads : state.variable? environment.«variables» node = some value) (has : node.HasCode code)
    (lies : code <+: state.current.ops.toList.drop state.current.ip) :
    step environment state = .running (state.yield value) := by
  obtain ⟨plain, generated, fused⟩ := has.generated
  have first {op : Op} (single : code = [op]) :
      state.current.ops[state.current.ip]? = some op := by
    rw [single] at lies
    exact Array.getElem?_toList.symm.trans (getElem?_of_lies lies Nat.one_pos)
  cases node with
  | localVar place name slot =>
      cases generated
      cases reads
      exact step_of_change (first (fused.eq_of_quiet (by simp [Quiet]))) rfl
  | symbol place name =>
      cases generated
      cases reads
      exact step_of_change (first (fused.eq_of_quiet (by simp [Quiet]))) rfl
  | _ => cases reads

/-- Anywhere in what is called, or where an activation does not write a slot. -/
def Unwritten (height slot : Nat) (state : State σ) : Prop :=
  height < state.callers.length ∨
    state.callers.length = height ∧
      ∀ op, state.current.ops[state.current.ip]? = some op → slot ∉ op.writes

theorem Unwritten.level_le {inner : State σ} (unwritten : Unwritten height slot inner) :
    height ≤ inner.callers.length := by
  obtain deeper | ⟨level, _⟩ := unwritten
  · exact deeper.le
  · exact level.ge

/-- A slot that is not written keeps its value, as long as no slot is wide. -/
theorem kept_of_path (path : Path environment
      (fun inner => Unwritten last.callers.length slot inner ∧ inner.Narrow) count state last)
    (small : slot < 0x8000000000000000) (level : state.callers.length = last.callers.length) :
    last.load slot = state.load slot := by
  refine path.strides (motive := fun _ inner => last.load slot = inner.load slot)
    (fun _ among => among.1.level_le) level rfl ?_
  intro instruction steps rest inner next unwritten same stride begun kept
  obtain deeper | ⟨_, spares⟩ := unwritten.1
  · omega
  · have tame := fun inner among => (begun.of_mem_trail inner among).2
    exact kept.trans (stride.keeps tame slot small (spares instruction stride.found))

/-! ## All variables -/

/-- How variables are read and written from a state on. -/
structure Remembers (environment : Environment σ) (state : State σ) : Prop where
  source : ∃ template, FromText (fun _ => True) template state.current.code
  /-- The stream is the code of a frame of the text, in which each name means what it should by the
  tokens of the text: the slot of its nearest declaration further up in a scope around it, or what
  it stands for outside if there is none. The parameters have the first slots, in their order. -/
  names : ∀ (text : Text) (optimize : Bool) (name : String) (template : Template),
    text.Parses name template → text.compile optimize name = .ok state.current.code →
      ∃ body ∈ template.frames, body.Hygienic (Token.scan text.dialect text.content) ∧
        body.parameters.length = state.current.arity ∧
        Streams template.Declares body.nodes state.current.ops.toList
  /-- The first slots of an activation begin as its arguments, all others as nil. -/
  begins : ∀ entered, step environment state = .running entered →
    state.callers.length < entered.callers.length →
      ∃ arguments, state.arguments? = some arguments ∧
        arguments.length = entered.current.arity ∧
        ∀ slot < 0x8000000000000000, entered.load slot = (arguments[slot]?).getD .nil
  fresh : state.current.ip = 0 → ∀ slot < 0x8000000000000000, state.current.arity ≤ slot →
    state.load slot = .nil
  /-- A variable reads as what is in its slot, or as what its name stands for outside. -/
  reads : ∀ node value, state.variable? environment.«variables» node = some value →
    ∀ code, node.HasCode code → code <+: state.current.ops.toList.drop state.current.ip →
      step environment state = .running (state.yield value)
  /-- Whatever is passed over, a slot that is not written keeps its value, and so does a name that
  is looked up. -/
  keeps : ∀ slot < 0x8000000000000000, ∀ count last,
    Path environment (Unwritten state.callers.length slot) count state last →
      last.callers.length = state.callers.length →
        last.load slot = state.load slot ∧
          ∀ name, last.lookup environment.«variables» name =
            state.lookup environment.«variables» name
  /-- In a run through a node that writes a slot by a compound assignment only, the slot holds what
  the operator makes, one after the other, of the values that the right operand had in the states
  in which the assignment began: however often that was, if the name is declared further up, and
  else where it was once. -/
  accumulates : ∀ template, FromText (fun _ => True) template state.current.code →
    ∀ node ∈ template.walk, ∀ code, node.HasCode code →
      code <+: state.current.ops.toList.drop state.current.ip →
        ∀ inner ∈ node.statements, ∀ slot op left right,
          Node.Compounds slot op right left inner → node.stored.count slot = 1 →
            ∀ value, state.variable? environment.«variables» left = some value →
              ∃ before part after, code = before ++ part ++ after ∧ inner.HasCode part ∧
                ∀ count last,
                  Path environment
                    (Within state.callers.length state.current.ip
                      (state.current.ip + code.length)) count state last →
                  last.callers.length = state.callers.length →
                  ¬ Within state.callers.length (state.current.ip + before.length)
                      (state.current.ip + before.length + part.length) last →
                    ∃ values,
                      List.Forall₂ (Yields environment (fun _ => True) template right)
                        ((trail environment count state).filter
                          (·.standsAt state.callers.length (state.current.ip + before.length)))
                        values ∧
                      ((∃ place name, left = .localVar place name slot) ∨ values.length = 1 →
                        values.foldlM (fun total operand => Meaning.operate total operand op)
                          value = .ok (last.load slot))

/-- Compiled code reads and writes its variables like this in each state that its runs come to. -/
theorem compiled_remembers {text : Text} {optimize : Bool} {name : String} {code : Code}
    {store : σ} {count : Nat} {state : State σ}
    (compiling : ∀ load ∈ environment.loader, Compiling (fun _ => True) holds load)
    (compiled : text.compile optimize name = .ok code) (held : holds store)
    (reached : runFor environment count (start code store) = .running state) :
    Remembers environment state := by
  obtain ⟨template, source⟩ := @fromText_of_compile (fun _ => True) _ _ _ _ trivial compiled
  have path := path_of_runFor reached
  have stems := (stems_start source held).path compiling path
  constructor
  · exact stems.current.source
  · intro text optimize name template parses made
    have source : FromText (fun _ => True) template state.current.code :=
      ⟨text, optimize, name, trivial, parses, made⟩
    obtain ⟨body, among, arity, streams⟩ := stems.current.frame source.built
    exact ⟨body, among, Template.slots_hygienic parses body among, arity, streams⟩
  · intro entered stepped more
    obtain ⟨op, found, calls, _⟩ := call_of_more stepped more
    obtain ⟨arguments, passed, begins⟩ := begins_of_step found calls stepped
    exact ⟨arguments, passed, begins.arity, fun slot small => begins.load small⟩
  · intro begins slot small beyond
    have length := length_of_path compiling (stems_start source held) path (fun _ => rfl) begins
    rw [State.load, slotAt_of_lt _ small, List.getElem?_eq_none (by omega)]
    rfl
  · intro node value reads code has lies
    exact step_variable reads has lies
  · intro slot small count last path level
    have tame := stems.narrow_trail compiling path
    rw [← level] at path
    have abides := path.abides (fun _ => Unwritten.level_le) level.symm
    have narrow : Path environment
        (fun inner => Unwritten last.callers.length slot inner ∧ inner.Narrow) count state last :=
      path.of_trail fun inner among unwritten => ⟨unwritten, tame inner among⟩
    exact ⟨kept_of_path narrow small level.symm, abides.lookup _⟩
  · intro template source node part code has lies inner inside slot op left right compounds once
      value reads
    obtain ⟨before, part', after, rfl, has', site⟩ :=
      site_of_statements has lies inside compounds once
    refine ⟨before, part', after, rfl, has', ?_⟩
    intro count last path level out
    have among := Node.closed_walkAll template.nodes node part inner
      (Node.walk_of_statements inside)
    have hosts : Hosts environment (fun _ => True) holds template state.current.ops.toList
        state.callers.length state := ⟨stems, source.built, rfl, rfl⟩
    have ahead := Nat.le_add_right state.current.ip before.length
    cases compounds with
    | declared strict =>
        cases reads
        obtain ⟨values, yields, total⟩ := site.accumulates compiling among (.declared strict) has'
          level out hosts (.inl ahead) .slot path
        exact ⟨values, yields, fun _ => total⟩
    | undeclared strict =>
        cases reads
        obtain ⟨values, yields, total⟩ := site.accumulates compiling among (.undeclared strict) has'
          level out hosts (.inl ahead) .outside path
        refine ⟨values, yields, ?_⟩
        rintro (⟨_, _, ⟨⟩⟩ | single)
        obtain ⟨operand, rfl⟩ := List.length_eq_one_iff.mp single
        exact total

/-- A page that adds numbers up, with a declaration further up or without one. -/
def tally (declared : Bool) : Text where
  dialect := .standard
  now := ⟨0⟩
  content := (if declared then "[% total = 10 %]" else "") ++
    "[% FOREACH i IN [1, 2, 3] %][% total += i %][% total %] [% END %]"
  short := by cases declared <;> decide +kernel

def tallyEnvironment : Environment Unit :=
  ⟨.builtins, .standard, none, [("total", .int 10)]⟩

theorem tally_remembers :
    ∃ code state, (tally true).compile true "page" = .ok code ∧
      runFor tallyEnvironment 2 (start code ()) = .running state ∧
      (state.load 0).display = "10" ∧
      (runFor tallyEnvironment 200 (start code ())).report = ⟨.finished, "11 13 16 ", []⟩ ∧
      Remembers tallyEnvironment state := by
  have ran : (((tally true).compile true "page").toOption.map fun code =>
      ((runFor tallyEnvironment 2 (start code ())).ending,
        ((runFor tallyEnvironment 2 (start code ())).state.load 0).display,
        (runFor tallyEnvironment 200 (start code ())).report)) =
      some (.unfinished, "10", ⟨.finished, "11 13 16 ", []⟩) := by
    decide +kernel
  cases made : (tally true).compile true "page" with
  | error failure =>
      rw [made] at ran
      cases ran
  | ok code =>
      rw [made] at ran
      obtain ⟨unfinished, further⟩ := Prod.mk.inj (Option.some.inj ran)
      obtain ⟨loaded, shown⟩ := Prod.mk.inj further
      cases reached : runFor tallyEnvironment 2 (start code ()) with
      | running state =>
          rw [reached] at loaded
          exact ⟨code, state, rfl, reached, loaded, shown,
            @compiled_remembers _ tallyEnvironment (fun _ => True) _ _ _ _ _ _ _ nofun made trivial
              reached⟩
      | finished state =>
          rw [reached] at unfinished
          cases unfinished
      | failed failure state =>
          rw [reached] at unfinished
          cases unfinished

/-- A page whose declaration is passed over. -/
def skipped : Text where
  dialect := .standard
  now := ⟨0⟩
  content := "[% IF 0 %][% x = 1 %][% END %][% x %]"

/-- Where no declaration stands further up, the totals in a loop are not those of the numbers so
far, and where a declaration is passed over, the variable from outside is not read. -/
theorem not_carried_over :
    (((tally false).compile true "page").toOption.map fun code =>
      (runFor tallyEnvironment 200 (start code ())).report) =
        some ⟨.finished, "11 12 13 ", []⟩ ∧
    ([.int 1, .int 2, .int 3].scanl Value.add (.int 10)).tail.map Value.display =
      ["11", "13", "16"] ∧
    ((skipped.compile true "page").toOption.map fun code =>
      (runFor ⟨.builtins, .standard, none, [("x", .int 5)]⟩ 200 (start code ())).report) =
        some ⟨.finished, "", [.nilPrinted "page"]⟩ := by
  decide +kernel

end Stencil.Machine

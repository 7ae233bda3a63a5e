import Stencil.Proofs.Compilation.Discipline
import Stencil.Proofs.Compilation.Sealed
import Stencil.Proofs.Machine.Strides

/-!
# Compound assignments

A compound assignment stores what its operator makes of what its name reads as and of its right
operand. Where nothing else around it writes the slot, the slot holds after any number of rounds
what the operator has made of the right operands one after the other.
-/

namespace Stencil

namespace Node

/-- The statement `x op= e`: the slot of `x` gets what the operator makes of `x` and of `e`. Its
left operand is that slot where `x` is declared further up, else what `x` stands for outside. -/
inductive Compounds (slot : Nat) (op : BinaryOp) (right : Node) : Node → Node → Prop where
  | declared {place₁ place₂ place₃ place₄ : Place} {name : String} (strict : op ≠ .and ∧ op ≠ .or) :
      Compounds slot op right (.localVar place₄ name slot)
        (.discard place₁ (.assign place₂ name slot
          (.binary place₃ op (.localVar place₄ name slot) right)))
  | undeclared {place₁ place₂ place₃ place₄ : Place} {name : String}
      (strict : op ≠ .and ∧ op ≠ .or) :
      Compounds slot op right (.symbol place₄ name)
        (.discard place₁ (.assign place₂ name slot
          (.binary place₃ op (.symbol place₄ name) right)))

theorem Compounds.shape {slot : Nat} {op : BinaryOp} {left right inner : Node}
    (compounds : Compounds slot op right left inner) :
    ∃ place₁ place₂ place₃ name, (op ≠ .and ∧ op ≠ .or) ∧
      inner = .discard place₁ (.assign place₂ name slot (.binary place₃ op left right)) := by
  cases compounds with
  | declared strict => exact ⟨_, _, _, _, strict, rfl⟩
  | undeclared strict => exact ⟨_, _, _, _, strict, rfl⟩

theorem Compounds.saves {slot : Nat} {op : BinaryOp} {left right inner : Node} {code : List Op}
    (compounds : Compounds slot op right left inner) (has : inner.HasCode code) :
    .saveLocal slot ∈ code := by
  obtain ⟨plain, generated, fused⟩ := has.generated
  obtain ⟨_, _, _, _, _, rfl⟩ := compounds.shape
  obtain rfl := fused.eq_of_quiet (Generate.quiet_expression generated)
  simp only [Generate.statement, Generate.expression, bind_eq_ok] at generated
  obtain ⟨value, _, ⟨⟩⟩ := generated
  exact List.mem_append_right _ List.mem_cons_self

end Node

namespace Meaning

variable {σ : Type} {world after : World σ}

/-- A compound assignment stores what the operator makes of the values of both operands. -/
theorem statement_compounds {surroundings : Surroundings σ} {render? : Option (Renderer σ)}
    {context : Context} {rounds slot : Nat} {op : Node.BinaryOp} {left right inner : Node}
    {low : Value} (compounds : Node.Compounds slot op right left inner)
    (reading : expression surroundings render? context left world = some (.ok low, world))
    (acted : statement surroundings render? context rounds inner world = some (.ok (), after)) :
    ∃ value between,
      expression surroundings render? context right world = some (.ok value, between) ∧
      operate low value op = .ok (after.load slot) := by
  obtain ⟨_, _, _, _, strict, rfl⟩ := compounds.shape
  obtain ⟨_, _, assigned, ⟨⟩⟩ := Action.of_bind_ok acted
  obtain ⟨result, stored, computed, ⟨⟩⟩ := Action.of_bind_ok assigned
  obtain ⟨_, _, read, further⟩ := Action.of_bind_ok computed
  rw [reading] at read
  cases read
  have undecided : decides low op = false := by
    cases op with
    | and => exact absurd rfl strict.1
    | or => exact absurd rfl strict.2
    | _ => rfl
  rw [undecided, if_neg Bool.false_ne_true] at further
  obtain ⟨value, between, valued, combined⟩ := Action.of_bind_ok further
  refine ⟨value, between, valued, ?_⟩
  rw [World.load_save_self]
  cases made : operate low value op with
  | ok total =>
      rw [made] at combined
      cases combined
      rfl
  | error fault =>
      rw [made] at combined
      cases combined

end Meaning

namespace Machine

/-! ## Sealed pieces in a stream -/

/-- A sealed piece of code in a stream, whose own jumps do not lead back to its start. -/
structure Site (slot : Nat) (stream : List Op) (start : Nat) (before part after : List Op) :
    Prop where
  lies : before ++ part ++ after <+: stream.drop start
  seals : Seals slot before part after
  ahead : Jumps (fun target => 0 < target) part

theorem target_eq {ip target : Nat} {offset : Int} (reached : jumpTarget? ip offset = some target) :
    (target : Int) = ip + offset := by
  unfold jumpTarget? at reached
  dsimp only at reached
  split at reached
  · cases reached
  · cases reached
    omega

/-- Code that lies in a stream has its instructions there. -/
theorem getElem?_of_lies {code stream : List Op} {start place : Nat}
    (lies : code <+: stream.drop start) (below : place < code.length) :
    stream[start + place]? = code[place]? := by
  obtain ⟨rest, joined⟩ := lies
  rw [← List.getElem?_drop, ← joined, List.getElem?_append_left below]

theorem found_of_lies {code stream : List Op} {start place : Nat} {op : Op}
    (lies : code <+: stream.drop start) (found : stream[start + place]? = some op)
    (below : place < code.length) : code[place]? = some op :=
  (getElem?_of_lies lies below).symm.trans found

theorem lt_of_lies {code stream : List Op} {ip : Nat} (more : 0 < code.length)
    (lies : code <+: stream.drop ip) : ip < stream.length := by
  have reach := lies.length_le
  rw [List.length_drop] at reach
  omega

namespace Site

variable {slot start ip : Nat} {stream before part after : List Op} {op : Op}

theorem lies_part (site : Site slot stream start before part after) :
    part <+: stream.drop (start + before.length) := by
  obtain ⟨rest, joined⟩ := site.lies
  refine ⟨after ++ rest, ?_⟩
  rw [← List.drop_drop, ← joined, List.append_assoc, List.append_assoc, List.drop_left]

/-- An instruction around the piece does not write the slot, and does not lead into the piece. -/
theorem around (site : Site slot stream start before part after) (found : stream[ip]? = some op)
    (above : start ≤ ip) (below : ip < start + (before ++ part ++ after).length)
    (outside : ip < start + before.length ∨ start + before.length + part.length ≤ ip) :
    slot ∉ op.writes ∧ ∀ target, Goes op ip target →
      target ≤ start + before.length ∨ start + before.length + part.length ≤ target := by
  obtain ⟨place, rfl⟩ := Nat.exists_eq_add_of_le above
  have here := found_of_lies site.lies found (by omega)
  rw [List.append_assoc] at here
  rcases outside with early | late
  · rw [List.getElem?_append_left (by omega)] at here
    refine ⟨site.seals.spares op (List.mem_append_left _ (List.mem_of_getElem? here)), ?_⟩
    rintro target (_ | ⟨jumps, reached⟩)
    · omega
    · have landed := target_eq reached
      have := site.seals.front place op _ here jumps
      omega
  · rw [List.getElem?_append_right (by omega), List.getElem?_append_right (by omega)] at here
    refine ⟨site.seals.spares op (List.mem_append_right _ (List.mem_of_getElem? here)), ?_⟩
    rintro target (_ | ⟨jumps, reached⟩)
    · omega
    · have landed := target_eq reached
      have := site.seals.back _ op _ here jumps
      omega

/-- An instruction of the piece does not lead back to the start of the piece. -/
theorem within (site : Site slot stream start before part after) (found : stream[ip]? = some op)
    (above : start + before.length ≤ ip) (below : ip < start + before.length + part.length) :
    ∀ target, Goes op ip target → start + before.length < target := by
  obtain ⟨place, rfl⟩ := Nat.exists_eq_add_of_le above
  rw [Nat.add_assoc] at found
  have here := found_of_lies site.lies found (by simp only [List.length_append]; omega)
  rw [List.append_assoc, List.getElem?_append_right (by omega), Nat.add_sub_cancel_left,
    List.getElem?_append_left (by omega)] at here
  rintro target (_ | ⟨jumps, reached⟩)
  · omega
  · have landed := target_eq reached
    have := site.ahead place op _ here jumps
    omega

end Site

/-! ## Compound assignments -/

variable {σ : Type} {environment : Environment σ} {dialects : Token.Dialect → Prop}
  {holds : σ → Prop} {state first last : State σ} {template : Template}
  {slot count start height : Nat} {left right inner : Node} {op : Node.BinaryOp}
  {reads : Value → Value} {code stream before part after : List Op}

/-- Where the nodes of a template are rendered that the machine is at work on. -/
def State.context (state : State σ) (template : Template) : Meaning.Context where
  template := state.current.code.name
  definitions name := Meaning.definition? name template.nodes
  bindings := (state.current :: state.callers).filterMap (·.bindings)
  trace := state.trace

/-- Rendering an expression in a state of the machine yields a value. -/
def Yields (environment : Environment σ) (dialects : Token.Dialect → Prop) (template : Template)
    (node : Node) (state : State σ) (value : Value) : Prop :=
  ∃ rounds after,
    Meaning.expression (surroundingsOf environment dialects)
      (Scene.calleesWithin (surroundingsOf environment dialects) rounds
        (environment.limits.maxDepth - state.depth))
      (state.context template) node state.world = some (.ok value, after)

/-- What the left operand of a compound assignment reads, given what is in the slot. -/
inductive ReadsAs (environment : Environment σ) (state : State σ) (slot : Nat) :
    Node → (Value → Value) → Prop where
  | slot {place : Place} {name : String} :
      ReadsAs environment state slot (.localVar place name slot) fun total => total
  | outside {place : Place} {name : String} :
      ReadsAs environment state slot (.symbol place name)
        fun _ => state.lookup environment.«variables» name

theorem Abides.readsAs (abides : Abides first last)
    (reading : ReadsAs environment first slot left reads) :
    ReadsAs environment last slot left reads := by
  cases reading with
  | slot => exact .slot
  | outside =>
      rw [← abides.lookup]
      exact .outside

theorem ReadsAs.expression_eq (reading : ReadsAs environment state slot left reads)
    {render? : Option (Meaning.Renderer σ)} (small : slot < 0x8000000000000000)
    (within : state.current.base ≤ state.slots.length) :
    Meaning.expression (surroundingsOf environment dialects) render? (state.context template) left
      state.world = some (.ok (reads (state.load slot)), state.world) := by
  cases reading with
  | slot =>
      rw [← state.world_load small]
      rfl
  | @outside place name =>
      have looked := @Scene.lookup_eq _ _ (Scene.around environment dialects (fun _ => True) 0
        template state) state.pose state.world state.store name
      rw [Scene.state_around _ _ _ within] at looked
      exact congrArg (fun value => some (Except.ok value, state.world)) looked.symm

theorem Within.level_le {stop : Nat} (within : Within height start stop state) :
    height ≤ state.callers.length := by
  obtain deeper | ⟨level, _⟩ := within
  · exact deeper.le
  · exact level.ge

/-- A compound assignment that the machine runs through. -/
theorem executed (compiling : ∀ load ∈ environment.loader, Compiling dialects holds load)
    (stems : Stems environment dialects holds state) (built : Built template state.current.code)
    (small : slot < 0x8000000000000000)
    (inside : inner ∈ template.walk) (compounds : Node.Compounds slot op right left inner)
    (reading : ReadsAs environment state slot left reads) (has : inner.HasCode code)
    (lies : code <+: state.current.ops.toList.drop state.current.ip)
    (more : state.current.ip < state.current.ops.toList.length)
    (path : Path environment
      (Within state.callers.length state.current.ip (state.current.ip + code.length)) count
      state last)
    (out : ¬ Within state.callers.length state.current.ip (state.current.ip + code.length) last) :
    last.current.ip = state.current.ip + code.length ∧ Abides state last ∧
      ∃ value, Yields environment dialects template right state value ∧
        Meaning.operate (reads (state.load slot)) value op = .ok (last.load slot) := by
  obtain ⟨after, accumulator, second, store, acted, rfl⟩ :=
    arrives_node compiling stems built inside has lies more path out
  refine ⟨rfl, ⟨rfl, rfl, rfl, rfl⟩, ?_⟩
  obtain ⟨value, between, valued, combined⟩ :=
    Meaning.statement_compounds compounds (reading.expression_eq small stems.stacked.1) acted
  rw [Scene.load_eq small]
  exact ⟨value, ⟨count + 1, between, valued⟩, combined⟩

/-- Inside a sealed piece an activation does not come back to the start of the piece. -/
theorem Site.never (site : Site slot stream start before part after)
    (same : state.current.ops.toList = stream) (level : state.callers.length = last.callers.length)
    (begun : start + before.length < state.current.ip)
    (path : Path environment (Within last.callers.length (start + before.length)
      (start + before.length + part.length)) count state last) :
    (trail environment count state).filter
      (·.standsAt last.callers.length (start + before.length)) = [] := by
  refine path.strides (motive := fun count state => state.current.ops.toList = stream →
      start + before.length < state.current.ip → (trail environment count state).filter
        (·.standsAt last.callers.length (start + before.length)) = [])
    ?_ level (fun _ _ => rfl) ?_ same begun
  · exact fun _ => Within.level_le
  · intro op steps rest state next among level stride through further same begun
    obtain deeper | ⟨_, above, below⟩ := among
    · omega
    · have found := stride.found
      rw [← Array.getElem?_toList, same] at found
      have onward := site.within found above below _ stride.goes
      have following := further (by rw [stride.abides.ops, same]) onward
      rw [through.trail_add, List.filter_append, following, stride.filter_trail level,
        if_neg begun.ne', List.append_nil]

theorem Site.around_stride (site : Site slot stream start before part after)
    (same : state.current.ops.toList = stream) (level : state.callers.length = height)
    (apart : state.current.ip ≠ start + before.length)
    (outside : state.current.ip ≤ start + before.length ∨
      start + before.length + part.length ≤ state.current.ip) {instruction : Op} {next : State σ}
    (stride : Stride environment instruction (count + 1) state next)
    (path : Path environment
      (Within height start (start + (before ++ part ++ after).length)) (count + 1) state next) :
    slot ∉ instruction.writes ∧ ∀ target, Goes instruction state.current.ip target →
      target ≤ start + before.length ∨ start + before.length + part.length ≤ target := by
  have found := stride.found
  rw [← Array.getElem?_toList, same] at found
  cases path with
  | step within _ _ =>
      obtain deeper | ⟨_, above, below⟩ := within
      · omega
      · exact site.around found above below (by omega)

/-- An activation that runs through a sealed piece stands at its start once. -/
theorem Site.once (site : Site slot stream start before part after)
    (same : state.current.ops.toList = stream) (level : state.callers.length = last.callers.length)
    (begins : state.current.ip = start + before.length) (more : 0 < part.length)
    (path : Path environment (Within last.callers.length (start + before.length)
      (start + before.length + part.length)) (count + 1) state last) :
    (trail environment (count + 1) state).filter
      (·.standsAt last.callers.length (start + before.length)) = [state] := by
  obtain ⟨instruction, steps, rest, next, rfl, stride, begun, further⟩ :=
    path.stride (by rw [level]; exact fun _ => Within.level_le) level.symm
  have found := stride.found
  rw [← Array.getElem?_toList, same] at found
  have onward := site.within found (by omega) (by omega) _ stride.goes
  have following := site.never (by rw [stride.abides.ops, same])
    (by rw [stride.abides.callers, level]) onward further
  rw [Nat.add_right_comm, begun.trail_add, List.filter_append, following,
    stride.filter_trail level, if_pos begins, List.append_nil]

/-- An activation with so many callers that runs a stream of code which belongs to a template. -/
structure Hosts (environment : Environment σ) (dialects : Token.Dialect → Prop) (holds : σ → Prop)
    (template : Template) (stream : List Op) (height : Nat) (state : State σ) : Prop where
  stems : Stems environment dialects holds state
  built : Built template state.current.code
  stream : state.current.ops.toList = stream
  level : state.callers.length = height

/-- The slots of the stream are narrow. -/
theorem Hosts.narrow (hosts : Hosts environment dialects holds template stream height state) :
    ∀ op ∈ stream, op.Narrow := by
  obtain ⟨nodes, ops, streams, same⟩ := hosts.stems.current.streams hosts.built
  rw [← hosts.stream, same]
  exact streams.narrow

/-- Nowhere on the way of a run of compiled code is there a wide slot. -/
theorem Stems.narrow_trail (compiling : ∀ load ∈ environment.loader, Compiling dialects holds load)
    (stems : Stems environment dialects holds state) {kind : State σ → Prop}
    (path : Path environment kind count state last) :
    ∀ inner ∈ trail environment count state, inner.Narrow := by
  induction path with
  | here state => nofun
  | step _ stepped _ ih =>
      rw [trail_step stepped]
      exact List.forall_mem_cons.mpr ⟨stems.narrow, ih (stems.step compiling stepped)⟩

theorem Hosts.path (compiling : ∀ load ∈ environment.loader, Compiling dialects holds load)
    {kind : State σ → Prop} {next : State σ}
    (hosts : Hosts environment dialects holds template stream height state)
    (path : Path environment kind count state next) (abides : Abides state next) :
    Hosts environment dialects holds template stream height next where
  stems := hosts.stems.path compiling path
  built := by rw [abides.code]; exact hosts.built
  stream := by rw [abides.ops, hosts.stream]
  level := by rw [abides.callers, hosts.level]

/-- Where an activation comes to a compound assignment and is outside it later on, it runs through
the assignment first. -/
theorem Site.executes (compiling : ∀ load ∈ environment.loader, Compiling dialects holds load)
    (site : Site slot stream start before part after) (inside : inner ∈ template.walk)
    (compounds : Node.Compounds slot op right left inner) (has : inner.HasCode part)
    (hosts : Hosts environment dialects holds template stream height state)
    (small : slot < 0x8000000000000000) (begins : state.current.ip = start + before.length)
    (reading : ReadsAs environment state slot left reads) {kind : State σ → Prop}
    (path : Path environment kind count state last)
    (out : ¬ Within height (start + before.length) (start + before.length + part.length) last) :
    ∃ steps rest back, count = steps + 1 + rest ∧ Path environment kind (steps + 1) state back ∧
      Path environment kind rest back last ∧
      (trail environment (steps + 1) state).filter
        (·.standsAt height (start + before.length)) = [state] ∧
      back.current.ip = start + before.length + part.length ∧ Abides state back ∧
      ∃ value, Yields environment dialects template right state value ∧
        Meaning.operate (reads (state.load slot)) value op = .ok (back.load slot) := by
  have more := List.length_pos_of_mem (compounds.saves has)
  obtain ⟨steps, rest, back, split, both, left, further⟩ := path.first_exit out
  have passed := both.mono fun _ within => within.2
  have through := passed
  rw [← hosts.level, ← begins] at through left
  obtain ⟨steps, rfl⟩ : ∃ fewer, steps = fewer + 1 := by
    cases steps with
    | zero =>
        cases through
        exact absurd (.inr ⟨rfl, le_rfl, by omega⟩) left
    | succ fewer => exact ⟨fewer, rfl⟩
  have lies := site.lies_part
  rw [← hosts.stream, ← begins] at lies
  obtain ⟨ended, abides, valued⟩ := executed compiling hosts.stems hosts.built small inside
    compounds reading has lies (lt_of_lies more lies) through left
  have level : back.callers.length = height := by rw [abides.callers, hosts.level]
  have once := site.once hosts.stream (hosts.level.trans level.symm) begins more
    (by rw [level]; exact passed)
  rw [level] at once
  exact ⟨steps, rest, back, split, both.mono fun _ within => within.1, further, once,
    by rw [ended, begins], abides, valued⟩

/-- What a compound assignment makes of its slot in a run through the code around it, from a state
outside the assignment to another one: by induction on the run, which goes on by a stride around the
assignment and through the assignment as a whole. -/
theorem Site.accumulates (compiling : ∀ load ∈ environment.loader, Compiling dialects holds load)
    (site : Site slot stream start before part after) (inside : inner ∈ template.walk)
    (compounds : Node.Compounds slot op right left inner) (has : inner.HasCode part)
    (level : last.callers.length = height)
    (out : ¬ Within height (start + before.length) (start + before.length + part.length) last)
    (hosts : Hosts environment dialects holds template stream height state)
    (outside : state.current.ip ≤ start + before.length ∨
      start + before.length + part.length ≤ state.current.ip)
    (reading : ReadsAs environment state slot left reads)
    (path : Path environment
      (Within height start (start + (before ++ part ++ after).length)) count state last) :
    ∃ values,
      List.Forall₂ (Yields environment dialects template right)
        ((trail environment count state).filter (·.standsAt height (start + before.length)))
        values ∧
      values.foldlM (fun total value => Meaning.operate (reads total) value op)
        (state.load slot) = .ok (last.load slot) := by
  have small : slot < 0x8000000000000000 :=
    hosts.narrow _ (List.mem_of_mem_drop (site.lies_part.subset (compounds.saves has))) slot
      List.mem_cons_self
  induction count using Nat.strongRecOn generalizing state with
  | ind count ih =>
      by_cases begins : state.current.ip = start + before.length
      · obtain ⟨steps, rest, back, rfl, through, further, once, ended, abides, value, valued,
          combined⟩ := site.executes compiling inside compounds has hosts small begins reading path
          out
        obtain ⟨values, yields, total⟩ := ih rest (by omega) (hosts.path compiling through abides)
          (.inr ended.ge) (abides.readsAs reading) further
        refine ⟨value :: values, ?_, ?_⟩
        · rw [through.trail_add, List.filter_append, once]
          exact .cons valued yields
        · rw [List.foldlM_cons, combined]
          exact total
      · cases count with
        | zero =>
            cases path
            exact ⟨[], .nil, rfl⟩
        | succ count =>
            obtain ⟨instruction, steps, rest, next, rfl, stride, begun, further⟩ :=
              path.stride (by rw [hosts.level]; exact fun _ => Within.level_le)
                (level.trans hosts.level.symm)
            obtain ⟨spared, goes⟩ := site.around_stride hosts.stream hosts.level begins outside
              stride begun
            obtain ⟨values, yields, total⟩ := ih rest (by omega)
              (hosts.path compiling begun stride.abides) (goes _ stride.goes)
              (stride.abides.readsAs reading) further
            refine ⟨values, ?_, ?_⟩
            · rw [Nat.add_right_comm, begun.trail_add, List.filter_append,
                stride.filter_trail hosts.level, if_neg begins, List.nil_append]
              exact yields
            · have narrow := hosts.stems.narrow_trail compiling begun
              rw [← stride.keeps narrow slot small spared]
              exact total

/-- Where the code of a compound assignment is in the code of a node around it, if nothing else
there writes its slot. -/
theorem site_of_statements {node : Node} (has : node.HasCode code)
    (lies : code <+: stream.drop start)
    (inside : inner ∈ node.statements) (compounds : Node.Compounds slot op right left inner)
    (once : node.stored.count slot = 1) :
    ∃ before part after, code = before ++ part ++ after ∧ inner.HasCode part ∧
      Site slot stream start before part after := by
  have own : slot ∈ inner.stored := by
    obtain ⟨_, _, _, _, _, rfl⟩ := compounds.shape
    exact List.mem_cons_self
  obtain ⟨plain, generated, fused⟩ := has.generated
  obtain ⟨before, part, after, rfl, has', seals⟩ :=
    sealed_statement own generated fused inside once
  obtain ⟨plain', generated', fused'⟩ := has'.generated
  have confined := fused'.confined (Generate.confined_statement generated')
  exact ⟨before, part, after, rfl, has', lies, seals, confined.jumps.mono fun _ => And.left⟩

end Machine

end Stencil

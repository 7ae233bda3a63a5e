import Stencil.Proofs.Compilation.Rounds
import Stencil.Proofs.Template.LoopReads

/-!
# Loops over lists

A loop over a list runs its body once for each element, up to its ceiling, whatever the body does:
it may assign to the variable of the loop, hide names, have loops of its own, and call macros and
templates that have some.
-/

namespace Stencil

/-- The code of a loop over a list, wherever it stands in a stream. -/
theorem Node.HasCode.forInStream {template : Template} {streamed : List Op} {spot : Place}
    {element : String} {slot max : Nat} {source : Node} {nodes : List Node} {code : List Op}
    (has : (Node.forLoop spot element slot source nodes max).HasCode code)
    (streams : Streams template.Declares template.nodes streamed)
    (inside : .forLoop spot element slot source nodes max ∈ template.walk) :
    ∃ front body, code = Generate.forLoop front body slot max ∧
      Generate.expression source = .ok front ∧
      ∀ stream start, code <+: stream.drop start → (∀ op ∈ stream, op.Narrow) →
        Machine.ForInStream slot max stream (start + front.length + 1) body := by
  obtain ⟨plain, generated, fused⟩ := has.generated
  simp only [Generate.statement, bind_eq_ok] at generated
  obtain ⟨front, listed, inner, blocked, ⟨⟩⟩ := generated
  obtain ⟨body, rfl, fused'⟩ := fused.forLoop_inv (Generate.quiet_expression listed)
    (Generate.fresh_block blocked)
  exact ⟨front, body, rfl, listed, fun stream start lies => Machine.forInStream_of_forLoop lies
    (fused'.confined (Generate.confined_block blocked)) (streams.sound _ inside)⟩

namespace Machine

variable {σ : Type} {environment : Environment σ} {dialects : Token.Dialect → Prop}
  {holds : σ → Prop} {state last : State σ} {template : Template} {count : Nat}

section

variable (compiling : ∀ load ∈ environment.loader, Compiling dialects holds load)
  (stems : Stems environment dialects holds state) (built : Built template state.current.code)

include compiling stems built

/-- The code of an expression, where it runs to its end, has computed the value. -/
theorem arrives_expression {node : Node}
    (sound : ∀ inner ∈ node.walk, inner.Sound template.Declares) {code : List Op}
    (generated : Generate.expression node = .ok code)
    (lies : code <+: state.current.ops.toList.drop state.current.ip)
    (inside : state.current.ip < state.current.ops.toList.length)
    (path : Path environment
      (Within state.callers.length state.current.ip (state.current.ip + code.length)) count
      state last)
    (out : ¬ Within state.callers.length state.current.ip (state.current.ip + code.length) last) :
    last.current.ip = state.current.ip + code.length ∧ Abides state last ∧
      Yields environment dialects template node state last.accumulator := by
  have ready := Scene.ready_around compiling stems built (count + 1)
  have laid := @laid_within _ _ _ holds _ stems _ built _
    (Generate.quiet_expression generated).haltless lies inside (count + 1)
  have computes := Scene.computes_expression ready generated sound
  have ran := (@computes _ (fun _ deeper => .inl deeper) state.pose state.world state.store _ laid
    ⟨rfl, stems.store⟩).acted
  rw [Scene.state_around holds (count + 1) template stems.stacked.1] at ran
  obtain ⟨value, after, acted, second, store, rfl, _⟩ :=
    ran.exit path out (Nat.lt_succ_self count) (by
      rintro _ after _ ⟨_, second, store, rfl, _⟩ (deeper | ⟨_, _, before⟩)
      · exact Nat.lt_irrefl _ deeper
      · exact Nat.lt_irrefl _ before)
  exact ⟨rfl, ⟨rfl, rfl, rfl, rfl⟩, count + 1, after, acted⟩

/-- A run that comes out of a loop has found its list and gone through its rounds. -/
theorem visits_forLoop {spot : Place} {element : String} {slot max : Nat} {source : Node}
    {nodes : List Node} (inside : .forLoop spot element slot source nodes max ∈ template.walk)
    {code : List Op} (has : (Node.forLoop spot element slot source nodes max).HasCode code)
    (lies : code <+: state.current.ops.toList.drop state.current.ip) :
    ∃ front body, code = Generate.forLoop front body slot max ∧ ∀ count last,
      Path environment
        (Within state.callers.length state.current.ip (state.current.ip + code.length)) count
        state last →
      ¬ Within state.callers.length state.current.ip (state.current.ip + code.length) last →
      ∃ value, Yields environment dialects template source state value ∧
        (min (Meaning.itemsOf value).length max < 2 ^ 63 →
          ∃ before, Visits environment state.callers.length (state.current.ip + front.length + 1)
            slot max state.current.code.name (Meaning.itemsOf value) 0 before
            (trail environment count state)) := by
  obtain ⟨front, body, rfl, listed, laid⟩ := has.forInStream built.body inside
  refine ⟨front, body, rfl, fun count last path out => ?_⟩
  have length := length_forLoop front body slot max
  have more := lt_of_lies (by omega) lies
  have hosts : Hosts environment dialects holds template state.current.ops.toList
      state.callers.length state := ⟨stems, built, rfl, rfl⟩
  have loop := laid _ _ lies hosts.narrow
  have ended : last.callers = state.callers ∧
      last.current.ip = state.current.ip + (Generate.forLoop front body slot max).length := by
    obtain ⟨_, _, _, _, _, same⟩ := arrives_node compiling stems built inside has lies more path out
    rw [same]
    exact ⟨rfl, rfl⟩
  obtain ⟨steps, rest, middle, rfl, both, left, further⟩ :=
    @Path.first_exit _ _ _ (Within state.callers.length state.current.ip
      (state.current.ip + front.length)) _ _ _ path (by
      rintro (deeper | ⟨_, _, before⟩)
      · exact out (.inl deeper)
      · omega)
  have listing := both.mono fun _ within => within.2
  have sound (inner : Node) (below : inner ∈ source.walk) : inner.Sound template.Declares :=
    built.body.sound inner (Node.closed_walkAll template.nodes _ inside inner
      (List.mem_cons_of_mem _ (List.mem_append_left _ below)))
  have lies' : front <+: state.current.ops.toList.drop state.current.ip := by
    simp only [Generate.forLoop, List.append_assoc] at lies
    exact (List.prefix_append _ _).trans lies
  obtain ⟨stands, abides, yields⟩ :=
    arrives_expression compiling stems built sound listed lies' more listing left
  refine ⟨_, yields, fun small => ?_⟩
  have runs : Runs state.current.ops.toList state.callers.length middle :=
    Runs.abides ⟨rfl, rfl⟩ abides
  have outside (inner : State σ) (within : Within state.callers.length state.current.ip
      (state.current.ip + (Generate.forLoop front body slot max).length) inner)
      (level : inner.callers.length = state.callers.length) :
      inner.current.ip ≠ state.current.ip + front.length + 1 + body.length + 2 := by
    obtain deeper | ⟨_, _, before⟩ := within
    · omega
    · omega
  have tame := (hosts.path compiling both abides).stems.narrow_trail compiling further
  have further' : Path environment (fun inner => Within state.callers.length state.current.ip
      (state.current.ip + (Generate.forLoop front body slot max).length) inner ∧ inner.Narrow) rest
      middle last :=
    further.of_trail fun inner among within => ⟨within, tame inner among⟩
  obtain ⟨before, visits⟩ := loop.visits_of_start (fun _ within => within.1.level_le)
    (fun _ => And.right) (by rw [ended.1]) (ended.2.trans (by omega))
    (fun inner within => outside inner within.1) small runs (congrArg (· + 1) stands)
    (by rw [stands]; exact found_forLoop lies (Nat.succ_pos _)) further'
  rw [both.trail_add, ← abides.code]
  refine ⟨_, visits.prepend fun inner among level => ?_⟩
  obtain deeper | ⟨_, _, before⟩ := listing.of_mem_trail inner among
  · omega
  · omega

end

/-- How loops over lists run from a state on. -/
structure Iterates (environment : Environment σ) (state : State σ) : Prop where
  /-- In the body of a loop the name `loop` stands for the state of this loop, unless a variable of
  that name or an inner loop hides it. -/
  owns : ∀ template, FromText (fun _ => True) template state.current.code →
    ∀ node ∈ template.walk, node.OwnsBody
  /-- A run that comes out of the loop has visited the elements of its list one after the other, up
  to the ceiling. An index has sixty-four bits, enough for each list that fits into memory. -/
  visits : ∀ template, FromText (fun _ => True) template state.current.code →
    ∀ spot element slot source nodes max,
      Node.forLoop spot element slot source nodes max ∈ template.walk →
        ∀ code, (Node.forLoop spot element slot source nodes max).HasCode code →
          code <+: state.current.ops.toList.drop state.current.ip →
            ∃ front body, code = Generate.forLoop front body slot max ∧ ∀ count last,
              Path environment
                (Within state.callers.length state.current.ip
                  (state.current.ip + code.length)) count state last →
              ¬ Within state.callers.length state.current.ip
                  (state.current.ip + code.length) last →
                ∃ value, Yields environment (fun _ => True) template source state value ∧
                  (min (Meaning.itemsOf value).length max < 2 ^ 63 →
                    ∃ before, Visits environment state.callers.length
                      (state.current.ip + front.length + 1) slot max state.current.code.name
                      (Meaning.itemsOf value) 0 before (trail environment count state))

/-- Compiled code runs its loops over lists like this in each state that its runs come to. -/
theorem compiled_iterates {text : Text} {optimize : Bool} {name : String} {code : Code}
    {store : σ} {count : Nat} {state : State σ}
    (compiling : ∀ load ∈ environment.loader, Compiling (fun _ => True) holds load)
    (compiled : text.compile optimize name = .ok code) (held : holds store)
    (reached : runFor environment count (start code store) = .running state) :
    Iterates environment state := by
  obtain ⟨template, source⟩ := @fromText_of_compile (fun _ => True) _ _ _ _ trivial compiled
  have stems := (stems_start source held).path compiling (path_of_runFor reached)
  constructor
  · rintro template ⟨_, _, _, _, parses, _⟩
    exact Template.ownsBody_of_parse parses
  · intro template source _ _ _ _ _ _ inside _ has lies
    exact visits_forLoop compiling stems source.built inside has lies

/-- A page with a loop that has more elements than it may visit, and whose body writes to its
variable and has a loop of its own. -/
def visitor : Text where
  dialect := { Token.Dialect.standard with maxIterations := 2 }
  now := ⟨0⟩
  content := "[%FOREACH i IN [7,8,9]%][%i%][%i=0%][%FOREACH j IN [5]%][%loop.size%][%END%]" ++
    "[%loop.peek_next%] [%END%]"

/-- The run begins where the loop does. -/
theorem visitor_iterates :
    ∃ code, visitor.compile true "page" = .ok code ∧
      (runFor ⟨.builtins, .standard, none, []⟩ 100 (start code ())).report =
        ⟨.finished, "718 819 ", [.forStopped "page" 2]⟩ ∧
      Iterates ⟨.builtins, .standard, none, []⟩ (start code ()) := by
  have ran : ((visitor.compile true "page").toOption.map fun code =>
      (runFor ⟨.builtins, .standard, none, []⟩ 100 (start code ())).report) =
        some ⟨.finished, "718 819 ", [.forStopped "page" 2]⟩ := by
    decide +kernel
  cases made : visitor.compile true "page" with
  | error failure =>
      rw [made] at ran
      cases ran
  | ok code =>
      rw [made] at ran
      exact ⟨code, rfl, Option.some.inj ran,
        @compiled_iterates _ ⟨.builtins, .standard, none, []⟩ (fun _ => True) _ _ _ _ _ 0 _ nofun
          made trivial rfl⟩

end Machine

end Stencil

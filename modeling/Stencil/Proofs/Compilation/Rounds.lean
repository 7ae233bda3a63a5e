import Stencil.Proofs.Compilation.Compounds
import Stencil.Proofs.Meaning.Total
import Stencil.Proofs.Value.LoopState

/-!
# Rounds of loops

A loop over a list keeps its index and its list in slots that nothing in its body writes, and its
body is left at its end only. So each round of a run begins with the next element, and the loop is
left where the list ends or the ceiling is reached.
-/

namespace Stencil.Machine

variable {σ : Type} {environment : Environment σ} {kind : State σ → Prop}
  {state next last : State σ} {slot max count start height place index : Nat} {items : List Value}
  {stream front body : List Op}

/-! ## Loops at their elements -/

/-- The warnings that a step from a state adds. -/
def State.logs (environment : Environment σ) (state : State σ) : List Warning :=
  match step environment state with
  | .running next => next.warnings.toList.drop state.warnings.size
  | _ => []

theorem logs_of_step (stepped : step environment state = .running next)
    (warned : next.warnings = state.warnings) : state.logs environment = [] := by
  rw [State.logs, stepped]
  dsimp only
  rw [warned, List.drop_eq_nil_of_le (Array.length_toList ▸ le_rfl)]

theorem logs_of_warn (stepped : step environment state = .running next) {warning : Warning}
    (warned : next.warnings = state.warnings.push warning) :
    state.logs environment = [warning] := by
  rw [State.logs, stepped]
  dsimp only
  rw [warned, Array.toList_push, ← Array.length_toList, List.drop_left]

/-- A loop is at an element of its list; before the first one the index is `-1`. -/
structure Amid (slot : Nat) (items : List Value) (index : Int) (state : State σ) : Prop where
  counted : (state.load (slot + 1)).toInteger = index
  list : state.items (slot + 2) = items

/-- Where the slots of a loop hold the same, it is at the same element. -/
theorem Amid.of_load {index : Int} (amid : Amid slot items index state)
    (same : next.load (slot + 1) = state.load (slot + 1))
    (same' : next.load (slot + 2) = state.load (slot + 2)) : Amid slot items index next where
  counted := by rw [same, amid.counted]
  list := by rw [State.items_of_load same', amid.list]

theorem ofInt_sub_one_add_one (index : Int) : Int64.ofInt (index - 1) + 1 = Int64.ofInt index := by
  have sum := Int64.ofInt_add (index - 1) 1
  rw [Int.sub_add_cancel] at sum
  exact sum.symm

theorem toInt_ofInt_natCast (small : index < 2 ^ 63) : (Int64.ofInt index).toInt = index :=
  Int64.toInt_ofInt_of_le (by omega) (by omega)

/-- A loop moves on to an element, is stopped at its ceiling, or is over. -/
theorem nextElement_cases {exit : Int} (amid : Amid slot items (index - 1) state)
    (small : index < 2 ^ 63) (moved : nextElement state slot max exit = .running next) :
    (∃ item, items[index]? = some item ∧ index < max ∧ next =
      ((state.save slot item).save (slot + 1) (.int (Int64.ofInt index))).advance) ∨
    (index < items.length ∧ max ≤ index ∧
      jump (state.warn (.forStopped state.current.code.name max)) exit = .running next) ∨
    (items.length ≤ index ∧ jump state exit = .running next) := by
  unfold nextElement at moved
  rw [amid.counted, amid.list, ofInt_sub_one_add_one] at moved
  dsimp only at moved
  rw [toInt_ofInt_natCast small, Int.toNat_natCast] at moved
  split at moved
  · next item found =>
      split at moved
      · next enough =>
          exact .inr (.inl ⟨(List.getElem?_eq_some_iff.mp found).1, enough, moved⟩)
      · next fewer =>
          cases moved
          exact .inl ⟨item, found, Nat.not_le.mp fewer, rfl⟩
  · next missing => exact .inr (.inr ⟨List.getElem?_eq_none_iff.mp missing, moved⟩)

section

variable (narrow : slot + 2 < 0x8000000000000000)

include narrow

/-- Starting a loop puts it before the first element of its list. -/
theorem amid_startLoop (state : State σ) :
    Amid slot (Meaning.itemsOf state.accumulator) (-1) (startLoop state slot) where
  counted := by
    refine congrArg Value.toInteger (?_ : State.load _ _ = .int (-1))
    refine (State.load_save_other _ _ (slotAt_ne narrow ?_ (by omega))).trans ?_
    · omega
    · exact State.load_save_self _ _ _
  list := State.items_save_self _ _ _

/-- A loop that has moved on has its element in its slot. -/
theorem load_moved (state : State σ) (item value : Value) :
    ((state.save slot item).save (slot + 1) value).advance.load slot = item := by
  refine (State.load_save_other _ _ (slotAt_ne ?_ ?_ (by omega))).trans ?_
  · omega
  · omega
  · exact State.load_save_self _ _ _

/-- A loop that has moved on is at the next element, if an index can count so far. -/
theorem amid_moved {item : Value} (amid : Amid slot items (index - 1) state)
    (small : index < 2 ^ 63) :
    Amid slot items index
      ((state.save slot item).save (slot + 1) (.int (Int64.ofInt index))).advance where
  counted :=
    (congrArg Value.toInteger (State.load_save_self _ _ _)).trans (toInt_ofInt_natCast small)
  list := by
    refine (State.items_of_load ?_).trans amid.list
    refine (State.load_save_other _ _ (slotAt_ne ?_ narrow (by omega))).trans ?_
    · omega
    · exact State.load_save_other _ _ (slotAt_ne (by omega) narrow (by omega))

end

/-- Where a loop is at an element, its state tells of this element. -/
theorem tells_of_amid (amid : Amid slot items index state) {spot : Place} {code : List Op}
    (has : (Node.loopVar spot slot).HasCode code)
    (lies : code <+: state.current.ops.toList.drop state.current.ip) :
    ∃ next, step environment state = .running next ∧
      environment.library.ShowsLoop next.accumulator index items := by
  obtain ⟨plain, ⟨⟩, fused⟩ := has.generated
  obtain rfl := fused.eq_of_quiet (by simp [Quiet])
  have found : state.current.ops[state.current.ip]? = some (.loopState slot) :=
    Array.getElem?_toList.symm.trans (getElem?_of_lies lies Nat.one_pos)
  refine ⟨_, step_of_change found rfl, ?_⟩
  have shows := environment.library.showsLoop_loopAt (.made state.made)
    (loopIndex state slot) (state.items (slot + 2))
  rw [loopIndex, amid.counted, Int.toNat_natCast, amid.list] at shows
  unfold makeLoop
  rw [loopIndex, amid.counted, Int.toNat_natCast, amid.list]
  exact shows

/-! ## Instructions of a loop -/

/-- The instructions of a loop over a list that moves on at a place. Its body is left at its end
only, and does not write where the loop keeps its index and its list. -/
structure ForInStream (slot max : Nat) (stream : List Op) (place : Nat) (body : List Op) :
    Prop where
  narrow : slot + 2 < 0x8000000000000000
  moves : stream[place]? = some (.forNext slot max (body.length + 2))
  inner : ∀ offset < body.length, stream[place + 1 + offset]? = body[offset]?
  returns : stream[place + 1 + body.length]? = some (.goto (-(body.length + 1 : Int)))
  stays : Jumps (fun target => 0 < target ∧ target ≤ body.length) body
  spares : ∀ op ∈ body, slot + 1 ∉ op.writes ∧ slot + 2 ∉ op.writes

theorem length_forLoop (front body : List Op) (slot max : Nat) :
    (Generate.forLoop front body slot max).length = front.length + body.length + 3 := by
  simp only [Generate.forLoop, List.length_append, List.length_cons, List.length_nil]
  omega

/-- The instructions of a loop, behind those for its list, stand in the stream. -/
theorem found_forLoop (lies : Generate.forLoop front body slot max <+: stream.drop start)
    {offset : Nat} (below : offset < body.length + 3) :
    stream[start + front.length + offset]? =
      (.forStart slot :: .forNext slot max (body.length + 2) ::
        (body ++ [.goto (-(body.length + 1 : Int))]))[offset]? := by
  rw [Nat.add_assoc, getElem?_of_lies lies (by rw [length_forLoop]; omega), Generate.forLoop,
    List.append_assoc, List.append_assoc, List.getElem?_append_right (Nat.le_add_right _ _),
    Nat.add_sub_cancel_left]
  rfl

theorem forInStream_of_forLoop {slots : List Nat}
    (lies : Generate.forLoop front body slot max <+: stream.drop start)
    (confined : Confined slots body) (apart : slot + 1 ∉ slots ∧ slot + 2 ∉ slots)
    (narrow : ∀ op ∈ stream, op.Narrow) :
    ForInStream slot max stream (start + front.length + 1) body where
  narrow := by
    have starts : .forStart slot ∈ Generate.forLoop front body slot max := by
      simp [Generate.forLoop]
    exact narrow _ (List.mem_of_mem_drop (lies.subset starts)) (slot + 2) (by simp [Op.slots])
  moves := found_forLoop lies (by omega)
  inner offset below := by
    rw [Nat.add_assoc _ 1 1, Nat.add_assoc, found_forLoop lies (by omega), Nat.add_comm,
      List.getElem?_cons_succ, List.getElem?_cons_succ, List.getElem?_append_left below]
  returns := by
    rw [Nat.add_assoc _ 1 1, Nat.add_assoc, found_forLoop lies (by omega), Nat.add_comm,
      List.getElem?_cons_succ, List.getElem?_cons_succ, List.getElem?_append_right le_rfl,
      Nat.sub_self]
    rfl
  stays := confined.jumps
  spares op among := ⟨fun writes => apart.1 (confined.writes op among _ writes),
    fun writes => apart.2 (confined.writes op among _ writes)⟩

/-- Where a loop is left, a run goes on behind it. -/
theorem leaves_of_jump (stands : state.current.ip = place)
    (jumped : jump state (body.length + 2) = .running next) :
    next.callers = state.callers ∧ next.warnings = state.warnings ∧
      next.current.ip = place + body.length + 2 := by
  obtain ⟨target, reached, rfl⟩ := jump_eq_running jumped
  have landed := target_eq reached
  refine ⟨rfl, rfl, ?_⟩
  show target = _
  omega

/-- An activation with so many callers that runs a stream. -/
structure Runs (stream : List Op) (height : Nat) (state : State σ) : Prop where
  stream : state.current.ops.toList = stream
  level : state.callers.length = height

theorem Runs.abides (runs : Runs stream height state) (abides : Abides state next) :
    Runs stream height next where
  stream := by rw [abides.ops, runs.stream]
  level := by rw [abides.callers, runs.level]

theorem Runs.found (runs : Runs stream height state) :
    state.current.ops[state.current.ip]? = stream[state.current.ip]? := by
  rw [← Array.getElem?_toList, runs.stream]

/-! ## Rounds -/

/-- The states of a round. It begins where the body does, with the element in its slot, and does not
come there again. All through it `loop` stands for the state of the loop at this element, wherever
it is read. -/
structure Round (environment : Environment σ) (height place slot : Nat) (items : List Value)
    (index : Nat) (states : List (State σ)) : Prop where
  begins : ∃ first others, states = first :: others ∧ first.standsAt height (place + 1) ∧
    items[index]? = some (first.load slot) ∧
    ∀ other ∈ others, other.standsAt height (place + 1) = false
  tells : ∀ inner ∈ states, inner.callers.length = height → place < inner.current.ip →
    ∀ spot code, (Node.loopVar spot slot).HasCode code →
      code <+: inner.current.ops.toList.drop inner.current.ip →
        ∃ next, step environment inner = .running next ∧
          environment.library.ShowsLoop next.accumulator index items

/-- A run through a loop from one of its elements on, by its states: after some states before the
body come the rounds, one for each element until the ceiling is reached; and where the loop moves
on, the warning about the ceiling is logged once if there are more elements, else nothing. -/
structure Visits (environment : Environment σ) (height place slot max : Nat) (name : String)
    (items : List Value) (index : Nat) (before states : List (State σ)) : Prop where
  rounds : ∃ rounds : List (List (State σ)), states = before ++ rounds.flatten ∧
    index + rounds.length = min items.length max ∧
    ∀ offset round, rounds[offset]? = some round →
      Round environment height place slot items (index + offset) round
  early : ∀ inner ∈ before, inner.callers.length = height → inner.current.ip ≤ place
  warned : (states.filter (·.standsAt height place)).flatMap (·.logs environment) =
    if max < items.length then [.forStopped name max] else []

namespace Visits

variable {name : String} {states before passed : List (State σ)}

/-- A loop is left where the list ends or the ceiling is reached. -/
theorem left (here : state.standsAt height place = true) (all : index = min items.length max)
    (logs : state.logs environment = if max < items.length then [.forStopped name max] else []) :
    Visits environment height place slot max name items index [state] [state] where
  rounds := ⟨[], rfl, all, nofun⟩
  early := List.forall_mem_singleton.mpr fun _ => (standsAt_iff.mp here).2.le
  warned := by
    rw [List.filter_cons, if_pos here, List.filter_nil, List.flatMap_singleton, logs]

/-- A round of a loop, and all that follow it. -/
theorem round
    (visits : Visits environment height place slot max name items (index + 1) [next] states)
    (here : state.standsAt height place = true) (quiet : state.logs environment = [])
    (elsewhere : ∀ inner ∈ passed, inner.standsAt height place = false)
    (round : Round environment height place slot items index (passed ++ [next])) :
    Visits environment height place slot max name items index [state]
      (state :: (passed ++ states)) where
  rounds := by
    obtain ⟨rounds, rfl, all, each⟩ := visits.rounds
    refine ⟨(passed ++ [next]) :: rounds, ?_, ?_, ?_⟩
    · rw [List.flatten_cons, List.append_assoc]
      rfl
    · rw [List.length_cons]
      omega
    · rintro (_ | offset) other found
      · cases found
        exact round
      · have later := each offset other found
        rwa [Nat.add_assoc, Nat.add_comm 1] at later
  early := List.forall_mem_singleton.mpr fun _ => (standsAt_iff.mp here).2.le
  warned := by
    have spared : passed.filter (·.standsAt height place) = [] :=
      List.filter_eq_nil_iff.mpr fun inner among => Bool.eq_false_iff.mp (elsewhere inner among)
    rw [List.filter_cons, if_pos here, List.filter_append, spared, List.flatMap_cons, quiet,
      List.nil_append, List.nil_append, visits.warned]

/-- States that do not come as far as where the loop moves on may stand in front. -/
theorem prepend (visits : Visits environment height place slot max name items index before states)
    (apart : ∀ inner ∈ passed, inner.callers.length = height → inner.current.ip < place) :
    Visits environment height place slot max name items index (passed ++ before)
      (passed ++ states) where
  rounds := by
    obtain ⟨rounds, rfl, all, each⟩ := visits.rounds
    exact ⟨rounds, (List.append_assoc _ _ _).symm, all, each⟩
  early := List.forall_mem_append.mpr
    ⟨fun inner among level => (apart inner among level).le, visits.early⟩
  warned := by
    have spared : passed.filter (·.standsAt height place) = [] :=
      List.filter_eq_nil_iff.mpr fun inner among =>
        Bool.eq_false_iff.mp (standsAt_eq_false fun level => (apart inner among level).ne)
    rw [List.filter_append, spared, List.nil_append, visits.warned]

end Visits

/-! ## Runs through a loop -/

/-- From a state in the body an activation has come to the end of the body. -/
structure Passed (environment : Environment σ) (height place slot : Nat) (body : List Op)
    (items : List Value) (index steps : Nat) (state back : State σ) : Prop where
  ends : back.current.ip = place + 1 + body.length
  amid : Amid slot items index back
  states : ∃ others, trail environment steps state ++ [back] = state :: others ∧
    ∀ other ∈ others, other.callers.length = height →
      place + 1 < other.current.ip ∧ Amid slot items index other

namespace ForInStream

variable (loop : ForInStream slot max stream place body)

include loop

/-- An instruction in the body stays in the body or leads to its end, and not back to its start. -/
theorem goes_inner {op : Op} {ip : Nat} (found : stream[ip]? = some op) (above : place < ip)
    (below : ip ≤ place + body.length) :
    (slot + 1 ∉ op.writes ∧ slot + 2 ∉ op.writes) ∧
      ∀ target, Goes op ip target → place + 1 < target ∧ target ≤ place + 1 + body.length := by
  obtain ⟨offset, rfl⟩ := Nat.exists_eq_add_of_lt above
  rw [Nat.add_right_comm] at found
  have here := loop.inner offset (by omega)
  rw [found] at here
  refine ⟨loop.spares op (List.mem_of_getElem? here.symm), ?_⟩
  rintro target (_ | ⟨jumps, reached⟩)
  · omega
  · have landed := target_eq reached
    have := loop.stays offset op _ here.symm jumps
    omega

/-- At the end of the body a run goes back to where the loop moves on. -/
theorem step_back (runs : Runs stream height state)
    (ends : state.current.ip = place + 1 + body.length)
    (stepped : step environment state = .running next) :
    next = { state with current := { state.current with ip := place } } := by
  have found := loop.returns
  rw [← ends, ← runs.found] at found
  rw [step_of_transfer found rfl rfl] at stepped
  obtain ⟨target, reached, rfl⟩ := jump_eq_running stepped
  have landed := target_eq reached
  obtain rfl : target = place := by omega
  rfl

/-- A stride in the body leads further, but not out of it. -/
theorem passed_stride {op : Op} {steps rest : Nat} {back : State σ}
    (runs : Runs stream height state) (amid : Amid slot items index state)
    (above : place < state.current.ip) (below : state.current.ip ≤ place + body.length)
    (stride : Stride environment op (steps + 1) state next)
    (begun : Path environment kind (steps + 1) state next)
    (tame : ∀ inner, kind inner → inner.Narrow)
    (further : Amid slot items index next → place < next.current.ip →
      next.current.ip ≤ place + 1 + body.length →
        Passed environment height place slot body items index rest next back) :
    Passed environment height place slot body items index (steps + 1 + rest) state back := by
  have found := stride.found
  rw [runs.found] at found
  obtain ⟨⟨spared, spared'⟩, goes⟩ := loop.goes_inner found above below
  obtain ⟨onward, notLater⟩ := goes _ stride.goes
  have narrow := loop.narrow
  have tame := fun inner among => tame inner (begun.of_mem_trail inner among)
  have amid := amid.of_load (stride.keeps tame _ (by omega) spared)
    (stride.keeps tame _ narrow spared')
  obtain ⟨ends, amid', others, states, all⟩ := further amid (by omega) notLater
  obtain ⟨calls, begins, deeper⟩ := stride.deeper
  refine ⟨ends, amid', calls ++ next :: others, ?_, ?_⟩
  · rw [begun.trail_add, begins, List.append_assoc, states]
    rfl
  · refine List.forall_mem_append.mpr ⟨fun other call level => ?_,
      List.forall_mem_cons.mpr ⟨fun _ => ⟨onward, amid⟩, all⟩⟩
    have := runs.level ▸ deeper other call
    omega

section

variable (high : ∀ inner, kind inner → height ≤ inner.callers.length)
  (tame : ∀ inner, kind inner → inner.Narrow) (level : last.callers.length = height)
  (ended : last.current.ip = place + body.length + 2)

include high tame level ended

/-- An activation that is somewhere in the body and comes out of the loop later on comes to the end
of the body first: by induction on its strides. -/
theorem passes (runs : Runs stream height state) (amid : Amid slot items index state)
    (above : place < state.current.ip) (below : state.current.ip ≤ place + 1 + body.length)
    (path : Path environment kind count state last) :
    ∃ steps rest back, count = steps + rest ∧ Path environment kind steps state back ∧
      Path environment kind rest back last ∧ Abides state back ∧
      Passed environment height place slot body items index steps state back := by
  obtain ⟨steps, rest, back, split, both, left, further⟩ :=
    @Path.first_exit _ _ _ (Within height (place + 1) (place + 1 + body.length)) _ _ _ path (by
      rintro (deeper | ⟨_, _, before⟩)
      · exact Nat.lt_irrefl _ (level ▸ deeper)
      · omega)
  have landed : back.callers.length = height := by
    refine le_antisymm (Nat.not_lt.mp fun deeper => left (.inl deeper)) ?_
    cases further with
    | here _ => exact level.ge
    | step within _ _ => exact high back within
  have through := both.mono fun _ within => within.1
  have abides := through.abides (fun inner among => landed ▸ high inner among)
    (runs.level.trans landed.symm)
  refine ⟨steps, rest, back, split, through, further, abides, ?_⟩
  refine both.strides (motive := fun steps state => Runs stream height state →
      Amid slot items index state → place < state.current.ip →
        state.current.ip ≤ place + 1 + body.length →
          Passed environment height place slot body items index steps state back)
    (fun _ within => landed ▸ within.2.level_le) (runs.level.trans landed.symm) ?_ ?_ runs amid
    above below
  · intro _ amid above below
    refine ⟨?_, amid, [], rfl, nofun⟩
    by_contra before
    exact left (.inr ⟨landed, above, by omega⟩)
  · intro op steps rest state next within same stride begun ih runs amid _ _
    obtain deeper | ⟨_, above, before⟩ := within.2
    · omega
    exact loop.passed_stride runs amid above (by omega) stride begun
      (fun inner among => tame inner among.1) (ih (runs.abides stride.abides))

/-- A run goes through a round and comes back to where the loop moves on. -/
theorem goes_round (runs : Runs stream height state) (begun : state.current.ip = place + 1)
    (amid : Amid slot items index state)
    (element : items[index]? = some (state.load slot))
    (path : Path environment kind count state last) :
    ∃ steps rest back passed, count = steps + rest ∧ Path environment kind rest back last ∧
      Runs stream height back ∧ back.current.code = state.current.code ∧
      back.current.ip = place ∧ Amid slot items index back ∧
      trail environment count state = passed ++ trail environment rest back ∧
      Round environment height place slot items index (passed ++ [back]) ∧
      ∀ inner ∈ passed, inner.standsAt height place = false := by
  obtain ⟨steps, rest, back, rfl, through, further, abides, ends, amid', others, states, all⟩ :=
    loop.passes high tame level ended runs amid (by omega) (by omega) path
  cases further with
  | here _ => omega
  | @step rest _ next _ _ stepped further =>
      obtain rfl := loop.step_back (runs.abides abides) ends stepped
      refine ⟨steps + 1, rest, _, state :: others, by omega, further,
        ⟨(runs.abides abides).stream, (runs.abides abides).level⟩, abides.code, rfl,
        amid'.of_load rfl rfl, ?_, ⟨⟨state, others ++ [_], rfl, ?_, element, ?_⟩, ?_⟩, ?_⟩
      · rw [through.trail_add, trail_step stepped, ← states, List.append_assoc]
        rfl
      · exact standsAt_iff.mpr ⟨runs.level, begun⟩
      · refine List.forall_mem_append.mpr ⟨?_, List.forall_mem_singleton.mpr ?_⟩
        · exact fun other among => standsAt_eq_false fun level => (all other among level).1.ne'
        · exact standsAt_eq_false fun _ => (Nat.lt_succ_self place).ne
      · refine List.forall_mem_append.mpr
          ⟨List.forall_mem_cons.mpr ⟨?_, ?_⟩, List.forall_mem_singleton.mpr ?_⟩
        · exact fun _ _ _ _ has lies => tells_of_amid amid has lies
        · exact fun other among level _ _ _ has lies =>
            tells_of_amid (all other among level).2 has lies
        · exact fun _ ahead => absurd ahead (Nat.lt_irrefl place)
      · refine List.forall_mem_cons.mpr ⟨standsAt_eq_false fun _ => by omega, ?_⟩
        exact fun other among => standsAt_eq_false fun level =>
          ((Nat.lt_succ_self place).trans (all other among level).1).ne'

/-- The rounds of a loop from where it moves on to an element, up to where it is left: by induction
on the run, which goes through the body to its end and back. -/
theorem visits (outside : ∀ inner, kind inner → inner.callers.length = height →
      inner.current.ip ≠ place + body.length + 2)
    (small : min items.length max < 2 ^ 63) (runs : Runs stream height state)
    (stands : state.current.ip = place) (amid : Amid slot items (index - 1) state)
    (notMore : index ≤ min items.length max) (path : Path environment kind count state last) :
    Visits environment height place slot max state.current.code.name items index [state]
      (trail environment count state) := by
  induction count using Nat.strongRecOn generalizing state index with
  | ind count ih =>
      cases path with
      | here _ => omega
      | @step count _ next _ within stepped path =>
          have here := standsAt_iff.mpr ⟨runs.level, stands⟩
          have found := loop.moves
          rw [← stands, ← runs.found] at found
          have moved := (step_of_transfer found rfl rfl).symm.trans stepped
          -- where the loop is left, this was the last step
          have leaving (away : next.callers = state.callers)
              (behind : next.current.ip = place + body.length + 2) :
              trail environment (count + 1) state = [state] := by
            rw [trail_step stepped]
            cases path with
            | here _ => rfl
            | step within' _ _ =>
                exact absurd behind (outside _ within' (by rw [away, runs.level]))
          obtain ⟨item, element, fewer, rfl⟩ | ⟨more, enough, jumped⟩ | ⟨past, jumped⟩ :=
            nextElement_cases amid (by omega) moved
          · have more := (List.getElem?_eq_some_iff.mp element).1
            obtain ⟨steps, rest, back, passed, rfl, further, runs', same, stands', amid', states,
              round, others⟩ := loop.goes_round high tame level ended
                (by exact ⟨runs.stream, runs.level⟩) (congrArg (· + 1) stands)
                (amid_moved loop.narrow amid (by omega))
                (by rw [element, load_moved loop.narrow]) path
            have amid'' : Amid slot items ((index + 1 : Nat) - 1) back := by
              rwa [Nat.cast_add, Nat.cast_one, Int.add_sub_cancel]
            have name : back.current.code.name = state.current.code.name := congrArg Code.name same
            have visits := ih rest (by omega) runs' stands' amid'' (by omega) further
            rw [name] at visits
            rw [trail_step stepped, states]
            exact visits.round here (logs_of_step stepped rfl) others round
          · obtain ⟨away, warned, behind⟩ := leaves_of_jump (by exact stands) jumped
            rw [leaving away behind]
            refine .left here (by omega) ?_
            rw [logs_of_warn stepped warned, if_pos (by omega)]
          · obtain ⟨away, warned, behind⟩ := leaves_of_jump stands jumped
            rw [leaving away behind]
            refine .left here (by omega) ?_
            rw [logs_of_step stepped warned, if_neg (by omega)]

/-- A loop that is started goes through its rounds from the first element on. -/
theorem visits_of_start (outside : ∀ inner, kind inner → inner.callers.length = height →
      inner.current.ip ≠ place + body.length + 2)
    (small : min (Meaning.itemsOf state.accumulator).length max < 2 ^ 63)
    (runs : Runs stream height state) (stands : state.current.ip + 1 = place)
    (found : stream[state.current.ip]? = some (.forStart slot))
    (path : Path environment kind count state last) :
    ∃ before, Visits environment height place slot max state.current.code.name
      (Meaning.itemsOf state.accumulator) 0 before (trail environment count state) := by
  cases path with
  | here _ => omega
  | @step count _ next _ _ stepped path =>
      rw [← runs.found] at found
      obtain rfl := Outcome.running.inj ((step_of_change found rfl).symm.trans stepped)
      have amid : Amid slot (Meaning.itemsOf state.accumulator) ((0 : Nat) - 1)
          (startLoop state slot) := amid_startLoop loop.narrow state
      have visits := loop.visits high tame level ended outside small
        (by exact ⟨runs.stream, runs.level⟩) stands amid (Nat.zero_le _) path
      rw [trail_step stepped, ← List.singleton_append]
      exact ⟨_, visits.prepend (List.forall_mem_singleton.mpr fun _ => by omega)⟩

end

end ForInStream

end Stencil.Machine

import Stencil.Proofs.Compilation.Texts

/-!
# The pairs that are fused

Fusing goes through a stream by one or by two instructions at a time. Whatever the stream, the
places it changes are those of its pairs: a text, and behind it a raw print that no jump reaches.
Pairs do not overlap, and fusing leaves none.
-/

namespace Stencil

/-- A piece of a stream that starts at `start` has a text at `place`, printed by the next
instruction, which no jump reaches. -/
structure PairAt (targets : List Nat) (start : Nat) (ops : List Op) (place : Nat) (text : String) :
    Prop where
  literal : ops[place]? = some (.literal (.text text))
  print : ops[place + 1]? = some .printRaw
  unreached : start + place + 1 ∉ targets

/-- The text of the pair at a place of a piece, if there is one. -/
def pairText? (targets : List Nat) (start : Nat) (ops : List Op) (place : Nat) : Option String :=
  match ops[place]?, ops[place + 1]? with
  | some (.literal (.text text)), some .printRaw =>
      if start + place + 1 ∈ targets then none else some text
  | _, _ => none

/-- The number of pairs in a piece. -/
def pairsFrom (targets : List Nat) (start : Nat) (ops : List Op) : Nat :=
  (List.range ops.length).countP fun place => (pairText? targets start ops place).isSome

section Pieces

variable {targets : List Nat} {start place : Nat} {op : Op} {ops rest : List Op} {text : String}

theorem pairText?_eq_some :
    pairText? targets start ops place = some text ↔ PairAt targets start ops place text := by
  unfold pairText?
  constructor
  · intro found
    split at found
    · next literal print =>
        split at found
        · cases found
        · next unreached =>
            cases found
            exact ⟨literal, print, unreached⟩
    · cases found
  · rintro ⟨literal, print, unreached⟩
    rw [literal, print]
    exact if_neg unreached

theorem pairText?_eq_none :
    pairText? targets start ops place = none ↔ ∀ text, ¬PairAt targets start ops place text := by
  simp only [Option.eq_none_iff_forall_ne_some, ne_eq, pairText?_eq_some]

theorem pairText?_succ :
    pairText? targets start (op :: rest) (place + 1) =
      pairText? targets (start + 1) rest place := by
  have same : start + (place + 1) + 1 = start + 1 + place + 1 := by omega
  simp only [pairText?, List.getElem?_cons_succ, same]

theorem pairAt_succ :
    PairAt targets start (op :: rest) (place + 1) text ↔
      PairAt targets (start + 1) rest place text := by
  simp only [← pairText?_eq_some, pairText?_succ]

/-- Pairs do not overlap. -/
theorem PairAt.alone {other : String} (here : PairAt targets start ops place text) :
    ¬PairAt targets start ops (place + 1) other := by
  intro next
  cases here.print.symm.trans next.literal

theorem pairsFrom_cons :
    pairsFrom targets start (op :: rest) =
      (if (pairText? targets start (op :: rest) 0).isSome then 1 else 0) +
        pairsFrom targets (start + 1) rest := by
  unfold pairsFrom
  rw [List.length_cons, List.range_succ_eq_map, List.countP_cons, List.countP_map, Nat.add_comm]
  congr 1
  exact List.countP_congr fun place _ => by
    rw [Function.comp_apply, Nat.succ_eq_add_one, pairText?_succ]

end Pieces

/-! ## Fused pieces -/

/-- Of a piece, the pairs are fused and nothing else is changed. -/
structure PairsFused (targets : List Nat) (start : Nat) (ops ops' : List Op) : Prop where
  pairs : ∀ place text, PairAt targets start ops place text →
    ops'[place]? = some (.printText text) ∧ ops'[place + 1]? = some .noop
  others : ∀ place, (∀ text, ¬PairAt targets start ops place text) →
    (∀ before text, place = before + 1 → ¬PairAt targets start ops before text) →
    ops'[place]? = ops[place]?

namespace PairsFused

variable {targets : List Nat} {start : Nat} {ops ops' : List Op}

theorem nil : PairsFused targets start [] [] where
  pairs := fun _ _ pair => nomatch pair.literal
  others := fun _ _ _ => rfl

/-- An instruction at which no pair begins is kept. -/
theorem keep {op : Op} (single : ∀ text, ¬PairAt targets start (op :: ops) 0 text)
    (fused : PairsFused targets (start + 1) ops ops') :
    PairsFused targets start (op :: ops) (op :: ops') where
  pairs := by
    intro place text pair
    cases place with
    | zero => exact absurd pair (single text)
    | succ place => exact fused.pairs place text (pairAt_succ.mp pair)
  others := by
    intro place single behind
    cases place with
    | zero => rfl
    | succ place =>
        refine fused.others place (fun text pair => single text (pairAt_succ.mpr pair)) ?_
        rintro before text rfl pair
        exact behind (before + 1) text rfl (pairAt_succ.mpr pair)

/-- A pair becomes one instruction and a gap. -/
theorem fuse {text : String}
    (pair : PairAt targets start (.literal (.text text) :: .printRaw :: ops) 0 text)
    (fused : PairsFused targets (start + 2) ops ops') :
    PairsFused targets start (.literal (.text text) :: .printRaw :: ops)
      (.printText text :: .noop :: ops') where
  pairs := by
    intro place other found
    match place with
    | 0 =>
        cases found.literal
        exact ⟨rfl, rfl⟩
    | 1 => exact absurd found pair.alone
    | place + 2 => exact fused.pairs place other (pairAt_succ.mp (pairAt_succ.mp found))
  others := by
    intro place single behind
    match place with
    | 0 => exact absurd pair (single text)
    | 1 => exact absurd pair (behind 0 text rfl)
    | place + 2 =>
        refine fused.others place
          (fun text pair => single text (pairAt_succ.mpr (pairAt_succ.mpr pair))) ?_
        rintro before text rfl pair
        exact behind (before + 2) text rfl (pairAt_succ.mpr (pairAt_succ.mpr pair))

end PairsFused

/-- No pair begins where there is no text, or no raw print behind it. -/
theorem not_pairAt {targets : List Nat} {start : Nat} {op : Op} {rest : List Op}
    (other : ∀ text behind, op = .literal (.text text) → rest = .printRaw :: behind → False)
    (text : String) : ¬PairAt targets start (op :: rest) 0 text := by
  intro pair
  obtain rfl : op = .literal (.text text) := Option.some.inj pair.literal
  obtain ⟨behind, rfl⟩ : ∃ behind, rest = .printRaw :: behind :=
    List.head?_eq_some_iff.mp (List.head?_eq_getElem?.trans pair.print)
  exact other text behind rfl rfl

theorem pairsFused_fuseFrom (targets : List Nat) (start : Nat) (ops : List Op) :
    PairsFused targets start ops (fuseFrom targets start ops) := by
  fun_induction fuseFrom targets start ops with
  | case1 start text rest reached ih =>
      exact .keep (fun _ pair => pair.unreached (List.contains_iff_mem.mp reached)) ih
  | case2 start text rest free ih =>
      exact .fuse ⟨rfl, rfl, fun reached => free (List.contains_iff_mem.mpr reached)⟩ ih
  | case3 start op rest other ih => exact .keep (not_pairAt other) ih
  | case4 => exact .nil

/-- As many pairs are counted as there are. -/
theorem fusionsFrom_eq (targets : List Nat) (start : Nat) (ops : List Op) :
    fusionsFrom targets start ops = pairsFrom targets start ops := by
  fun_induction fusionsFrom targets start ops with
  | case1 start text rest reached ih =>
      have none : pairText? targets start (.literal (.text text) :: .printRaw :: rest) 0 = none :=
        if_pos (List.contains_iff_mem.mp reached)
      rw [pairsFrom_cons, none, ih]
      exact (Nat.zero_add _).symm
  | case2 start text rest free ih =>
      have pair : pairText? targets start (.literal (.text text) :: .printRaw :: rest) 0 =
          some text :=
        if_neg fun reached => free (List.contains_iff_mem.mpr reached)
      have none : pairText? targets (start + 1) (.printRaw :: rest) 0 = none := rfl
      rw [pairsFrom_cons, pair, pairsFrom_cons, none, ih]
      simp only [Option.isSome_some, Option.isSome_none, if_true, Bool.false_eq_true, if_false]
      rw [Nat.zero_add, Nat.add_comm]
  | case3 start op rest other ih =>
      rw [pairsFrom_cons, pairText?_eq_none.mpr (not_pairAt other), ih]
      exact (Nat.zero_add _).symm
  | case4 => rfl

/-! ## Fused streams -/

/-- The number of pairs of a stream. -/
def pairs (ops : List Op) : Nat :=
  pairsFrom (jumpTargets ops) 0 ops

theorem fusions_eq (ops : List Op) : fusions ops = pairs ops :=
  fusionsFrom_eq _ 0 ops

theorem Fused.jumpTargetsFrom_eq {ops ops' : List Op} (fused : Fused ops ops') (ip : Nat) :
    jumpTargetsFrom ip ops' = jumpTargetsFrom ip ops := by
  induction fused generalizing ip with
  | nil => rfl
  | keep op _ ih => simp only [jumpTargetsFrom, ih]
  | fuse text _ ih => exact ih (ip + 1 + 1)

/-- Each jump stays where it is, and none is added. -/
theorem Fused.jump_iff {ops ops' : List Op} (fused : Fused ops ops') {op : Op}
    (jumps : op.jump?.isSome) (place : Nat) : ops'[place]? = some op ↔ ops[place]? = some op := by
  induction fused generalizing place with
  | nil => rfl
  | keep first _ ih =>
      cases place with
      | zero => rfl
      | succ place => exact ih place
  | fuse text _ ih =>
      match place with
      | 0 | 1 =>
          constructor
          all_goals
            intro found
            cases found
            cases jumps
      | place + 2 => exact ih place

/-- A stream in which all pairs are fused, and nothing else is changed. -/
structure StreamFused (ops ops' : List Op) : Prop where
  length : ops'.length = ops.length
  jumps : ∀ (place : Nat) (op : Op), op.jump?.isSome →
    (ops'[place]? = some op ↔ ops[place]? = some op)
  targets : jumpTargets ops' = jumpTargets ops
  fused : PairsFused (jumpTargets ops) 0 ops ops'

theorem streamFused_fuse (ops : List Op) : StreamFused ops (fuse ops) where
  length := (fused_fuse ops).length_eq
  jumps := fun place _ jumps => (fused_fuse ops).jump_iff jumps place
  targets := (fused_fuse ops).jumpTargetsFrom_eq 0
  fused := pairsFused_fuseFrom _ 0 ops

namespace PairsFused

variable {targets : List Nat} {start : Nat} {ops ops' : List Op}

/-- What is neither a fused print nor a gap was there before. -/
theorem before {place : Nat} {op : Op} (fused : PairsFused targets start ops ops')
    (found : ops'[place]? = some op) (print : ∀ text, op ≠ .printText text) (gap : op ≠ .noop) :
    ops[place]? = some op := by
  rw [← fused.others place, found]
  · intro text pair
    exact print text (Option.some.inj (found.symm.trans (fused.pairs place text pair).1))
  · rintro before text rfl pair
    exact gap (Option.some.inj (found.symm.trans (fused.pairs before text pair).2))

/-- No pair is left, and none arises. -/
theorem no_pair (fused : PairsFused targets start ops ops') (place : Nat) (text : String) :
    ¬PairAt targets start ops' place text := by
  intro left
  have pair : PairAt targets start ops place text :=
    ⟨fused.before left.literal nofun nofun, fused.before left.print nofun nofun, left.unreached⟩
  cases left.literal.symm.trans (fused.pairs place text pair).1

theorem eq_of_none (fused : PairsFused targets start ops ops')
    (none : ∀ place text, ¬PairAt targets start ops place text) : ops' = ops :=
  List.ext_getElem? fun place =>
    fused.others place (none place) fun before text _ => none before text

end PairsFused

theorem pairsFrom_eq_zero {targets : List Nat} {start : Nat} {ops : List Op}
    (none : ∀ place text, ¬PairAt targets start ops place text) :
    pairsFrom targets start ops = 0 := by
  unfold pairsFrom
  rw [List.countP_eq_zero]
  intro place _
  rw [pairText?_eq_none.mpr (none place)]
  exact Bool.false_ne_true

theorem StreamFused.no_pair {ops ops' : List Op} (fused : StreamFused ops ops') (place : Nat)
    (text : String) : ¬PairAt (jumpTargets ops') 0 ops' place text := by
  rw [fused.targets]
  exact fused.fused.no_pair place text

theorem fuse_fuse (ops : List Op) : fuse (fuse ops) = fuse ops :=
  (streamFused_fuse (fuse ops)).fused.eq_of_none (streamFused_fuse ops).no_pair

theorem fusions_fuse (ops : List Op) : fusions (fuse ops) = 0 := by
  rw [fusions_eq]
  exact pairsFrom_eq_zero (streamFused_fuse ops).no_pair

/-! ## Fused templates -/

/-- A template in whose streams all pairs are fused, and nothing else is changed. -/
structure CodeFused (code code' : Code) : Prop where
  name : code'.name = code.name
  generatedAt : code'.generatedAt = code.generatedAt
  ops : StreamFused code.ops code'.ops
  macros : List.Forall₂
    (fun entry entry' => entry'.1 = entry.1 ∧ entry'.2.parameters = entry.2.parameters ∧
      StreamFused entry.2.ops entry'.2.ops)
    code.macros code'.macros
  check : code'.check = code.check

namespace Code

theorem codeFused_optimize (code : Code) : CodeFused code code.optimize where
  name := rfl
  generatedAt := rfl
  ops := streamFused_fuse code.ops
  macros := List.forall₂_map_right_iff.mpr
    (List.forall₂_same.mpr fun entry _ => ⟨rfl, rfl, streamFused_fuse entry.2.ops⟩)
  check := code.check_mapStreams fused_fuse

/-- The streams of a template whose streams are changed are the changed streams. -/
theorem streams_mapStreams (change : List Op → List Op) (code : Code) :
    (code.mapStreams change).streams =
      code.streams.map fun stream => (stream.1, change stream.2) := by
  simp only [mapStreams, streams, List.map_cons, List.map_map, Function.comp_def]

theorem optimize_optimize (code : Code) : code.optimize.optimize = code.optimize := by
  simp only [optimize, mapStreams, List.map_map, Function.comp_def, fuse_fuse]

theorem fusions_optimize (code : Code) : code.optimize.fusions = 0 := by
  simp only [fusions, optimize, streams_mapStreams, List.map_map, Function.comp_def, fusions_fuse]
  exact List.sum_map_zero

/-- Whatever the code, fusing changes its pairs and nothing else, so that its jumps lead where they
did and its check says what it said; the count is that of the pairs, and no pair is left. -/
theorem optimize_pairs (code : Code) :
    CodeFused code code.optimize ∧
      code.fusions = (code.streams.map fun stream => pairs stream.2).sum ∧
      code.optimize.optimize = code.optimize ∧ code.optimize.fusions = 0 := by
  refine ⟨code.codeFused_optimize, ?_, code.optimize_optimize, code.fusions_optimize⟩
  simp only [fusions, fusions_eq]
  rfl

end Code

/-- A jump to the print of a text keeps the two apart. -/
example : fuse
    [.literal (.text "a"), .printRaw, .literal (.text "b"), .printRaw, .goto (-3), .halt] =
    [.literal (.text "a"), .printRaw, .printText "b", .noop, .goto (-3), .halt] := by
  decide

end Stencil

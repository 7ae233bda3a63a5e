import Stencil.Proofs.Template.Derivation

/-!
# The name of a loop's state

In a loop over a list the name `loop` stands for the state of the loop, to which nothing can be
assigned, unless a variable of that name can be seen. Whether a derivation keeps to this is told from
its tags taken alone, and it is all that can keep the tags from being read where they stand.
-/

namespace Stencil.Template

/-- What the name `loop` stands for. -/
structure LoopName where
  /-- A variable of this name can be seen. -/
  declared : Bool
  /-- There is a loop over a list around. -/
  looping : Bool

namespace LoopName

/-- At the start of a template. -/
def plain : LoopName :=
  ⟨false, false⟩

def declare (name : String) (loopName : LoopName) : LoopName :=
  { loopName with declared := name == "loop" || loopName.declared }

/-- An assignment to a name, which may not be that of a loop's state. -/
def assign? (name : String) (loopName : LoopName) : Option LoopName :=
  if name == "loop" && !loopName.declared && loopName.looping then none
  else some (loopName.declare name)

end LoopName

def Heading.pass? (loopName : LoopName) : Heading → Option LoopName
  | set _ name _ => some (loopName.declare name)
  | call _ (.assignment _ name _) | plain _ (.assignment _ name _) => loopName.assign? name
  | _ => some loopName

/-- In the block that a tag encloses. -/
def Heading.enterLoop (loopName : LoopName) : Heading → LoopName
  | forLoop _ element _ => { loopName.declare element with looping := true }
  | macroDef _ _ parameters => ⟨parameters.contains "loop", false⟩
  | _ => loopName

/-- Behind the block that a tag encloses: what a wrapped block declares is kept. -/
def Heading.leaveLoop (before inside : LoopName) : Heading → LoopName
  | wrapper .. => inside
  | _ => before

section

variable (settings : Settings)

mutual

/-- What the name `loop` stands for behind a block, if the block assigns to no loop's state. -/
def Block.loopName? : Block → LoopName → Option LoopName
  | .nil, loopName => some loopName
  | .text _ _ rest, loopName => rest.loopName? loopName
  | .empty tag _ rest, loopName | .simple tag _ rest, loopName => do
      rest.loopName? (← (← tag.read settings .plain).pass? loopName)
  | .conditional _ _ body branches rest, loopName => do
      rest.loopName? (← branches.loopName? (← body.loopName? loopName))
  | .enclosing tag _ body _ _ rest, loopName => do
      let heading ← tag.read settings .plain
      let inside ← body.loopName? (heading.enterLoop loopName)
      rest.loopName? (heading.leaveLoop loopName inside)

def Branches.loopName? : Branches → LoopName → Option LoopName
  | .close _ _, loopName => some loopName
  | .otherwise _ _ body _ _, loopName => body.loopName? loopName
  | .otherwiseIf _ _ body branches, loopName => do
      branches.loopName? (← body.loopName? loopName)

end

/-- A derivation none of whose tags assigns to the state of a loop. -/
def Block.KeepsLoops (derived : Block) : Prop :=
  (derived.loopName? settings .plain).isSome

instance {derived : Block} : Decidable (derived.KeepsLoops settings) :=
  inferInstanceAs (Decidable (_ = true))

end

/-! ## Frames -/

namespace Frame

variable {frame next : Frame} {name : String}

/-- What the name `loop` stands for in a frame. -/
def loopName (frame : Frame) : LoopName :=
  ⟨(frame.lookup? "loop").isSome, !frame.loops.isEmpty⟩

theorem lookup_declare (frame : Frame) (name other : String) :
    ((frame.declare name).2.lookup? other).isSome = (name == other || (frame.lookup? other).isSome) := by
  simp only [declare, lookup?, List.findSome?_cons, List.lookup_cons, BEq.comm (a := name)]
  cases other == name <;> rfl

theorem loopName_declare (frame : Frame) (name : String) :
    (frame.declare name).2.loopName = frame.loopName.declare name :=
  congrArg (LoopName.mk · _) (lookup_declare frame name "loop")

theorem declare_loopName {slot : Nat} (found : frame.lookup? name = some slot) :
    frame.loopName.declare name = frame.loopName := by
  refine congrArg (LoopName.mk · _) ?_
  cases called : name == "loop" with
  | false => rfl
  | true =>
      obtain rfl := eq_of_beq called
      exact (congrArg Option.isSome found).symm

theorem loopName_assignable (frame : Frame) (name : String) :
    (frame.assignable name).2.loopName = frame.loopName.declare name := by
  unfold assignable
  split
  · next found => exact (declare_loopName found).symm
  · exact loopName_declare frame name

theorem loopName_settable (frame : Frame) (name : String) :
    (frame.settable name).2.loopName = frame.loopName.declare name := by
  unfold settable
  split
  · next slot found =>
      have seen : frame.lookup? name = some slot := by
        simp only [lookup?, List.findSome?_cons, found]
      exact (declare_loopName seen).symm
  · exact loopName_declare frame name

theorem loopName_enterFor (frame : Frame) (element : String) :
    (frame.enterFor element).2.loopName = { frame.loopName.declare element with looping := true } :=
  congrArg (LoopName.mk · _) (lookup_declare ⟨[], frame.scope :: frame.outer, _, []⟩ element "loop")

theorem loopName_foldl_declare (parameters : List String) (frame : Frame) :
    (parameters.foldl (fun frame name => (frame.declare name).2) frame).loopName =
      { frame.loopName with declared := parameters.contains "loop" || frame.loopName.declared } := by
  induction parameters generalizing frame with
  | nil => rfl
  | cons name others ih =>
      rw [List.foldl_cons, ih, loopName_declare, List.contains_cons]
      cases others.contains "loop" <;> simp [LoopName.declare, BEq.comm (a := "loop")]

theorem loopName_ofParameters (parameters : List String) :
    (ofParameters parameters).loopName = ⟨parameters.contains "loop", false⟩ := by
  rw [ofParameters, loopName_foldl_declare]
  exact congrArg (LoopName.mk · false) (Bool.or_false _)

/-- The scopes and the loops around are the same. -/
structure Level (frame next : Frame) : Prop where
  outer : next.outer = frame.outer
  loops : next.loops = frame.loops

theorem Level.refl (frame : Frame) : Level frame frame :=
  ⟨rfl, rfl⟩

theorem Level.trans {last : Frame} (level : Level frame next) (level' : Level next last) :
    Level frame last :=
  ⟨level'.outer.trans level.outer, level'.loops.trans level.loops⟩

theorem level_declare (frame : Frame) (name : String) : Level frame (frame.declare name).2 :=
  ⟨rfl, rfl⟩

theorem level_assignable (frame : Frame) (name : String) : Level frame (frame.assignable name).2 := by
  unfold assignable
  split
  · exact .refl frame
  · exact level_declare frame name

theorem level_settable (frame : Frame) (name : String) : Level frame (frame.settable name).2 := by
  unfold settable
  split
  · exact .refl frame
  · exact level_declare frame name

/-- Behind a loop the scopes are those before it. -/
theorem Level.leaveFor {element : String} (level : Level (frame.enterFor element).2 next) :
    Level frame next.leaveFor ∧ next.leaveFor.loopName = frame.loopName := by
  obtain ⟨scope, outer, slot, loops⟩ := next
  obtain ⟨rfl, rfl⟩ := level
  exact ⟨⟨rfl, rfl⟩, rfl⟩

theorem Level.leaveScope (level : Level frame.enterWhile.2 next) :
    Level frame next.leaveScope ∧ next.leaveScope.loopName = frame.loopName := by
  obtain ⟨scope, outer, slot, loops⟩ := next
  obtain ⟨rfl, rfl⟩ := level
  exact ⟨⟨rfl, rfl⟩, rfl⟩

end Frame

/-! ## Derivations -/

section

variable {settings : Settings} {situation between : Situation} {nodes : List Node}
  {found found' : Heading} {tag : Tag} {α β : Type}

/-- Behind what is read, the name stands for what the tags taken alone say; without it, nothing is
read. -/
inductive Follows (before : Situation) : Option (α × Situation) → Option LoopName → Prop
  | some (value : α) {after : Situation} (level : before.frame.Level after.frame) :
      Follows before (some (value, after)) (some after.frame.loopName)
  | none : Follows before none none

theorem Follows.from {result : Option (α × Situation)} {told : Option LoopName}
    (level : situation.frame.Level between.frame) (follows : Follows between result told) :
    Follows situation result told := by
  cases follows with
  | none => exact .none
  | some value level' => exact .some value (level.trans level')

section

variable {first : Option (α × Situation)} {told : Option LoopName}
  {next : α × Situation → Option (β × Situation)} {further : LoopName → Option LoopName}

/-- Something is read in a situation of its own. -/
theorem Follows.within (follows : Follows between first told)
    (continued : ∀ value after, between.frame.Level after.frame →
      Follows situation (next (value, after)) (further after.frame.loopName)) :
    Follows situation (first >>= next) (told >>= further) := by
  cases follows with
  | none => exact .none
  | some value level => exact continued value _ level

theorem Follows.bind (follows : Follows situation first told)
    (continued : ∀ value after,
      Follows after (next (value, after)) (further after.frame.loopName)) :
    Follows situation (first >>= next) (told >>= further) :=
  follows.within fun value after level => (continued value after).from level

end

theorem Follows.return {first : Option (α × Situation)} {told : Option LoopName} (change : α → β)
    (follows : Follows situation first told) :
    Follows situation (do let (value, after) ← first; return (change value, after)) told := by
  cases follows with
  | none => exact .none
  | some value level => exact .some (change value) level

theorem assign_eq (situation : Situation) (name : String) :
    situation.frame.loopName.assign? name =
      if situation.blocks name then none else some (situation.frame.loopName.declare name) := by
  have same : (name == "loop" && !situation.frame.loopName.declared &&
      situation.frame.loopName.looping) = situation.blocks name := by
    rw [Situation.blocks, Frame.loopName, Option.not_isSome]
    cases called : name == "loop" with
    | false => rfl
    | true => rw [eq_of_beq called]
  rw [LoopName.assign?, same]

theorem follows_assignment (situation : Situation) (name : String) (value : α)
    (free : ¬situation.blocks name = true) :
    Follows situation
      (some (value, { situation with frame := (situation.frame.assignable name).2 }))
      (situation.frame.loopName.assign? name) := by
  rw [assign_eq, if_neg free, ← Frame.loopName_assignable]
  exact .some value (Frame.level_assignable _ name)

/-- A tag that no block belongs to. -/
theorem follows_alone (alone : tag.read settings .plain = some found)
    (form : found.form = .empty ∨ found.form = .simple) (situation : Situation) :
    Follows situation (tag.read settings situation >>= (·.nodes? situation))
      (found.pass? situation.frame.loopName) := by
  rcases Tag.read_of_alone alone situation with
    ⟨free, found', read, alike⟩ | ⟨⟨name, assigned, blocked⟩, unread⟩
  · rw [read]
    have free (name : String) (assigned : found.assigned? = some name) :
        ¬situation.blocks name = true := fun blocked => free ⟨name, assigned, blocked⟩
    cases alike with
    | empty | print | inclusion => exact .some _ (.refl _)
    | set place name =>
        show Follows situation (some _) (some (situation.frame.loopName.declare name))
        rw [← Frame.loopName_settable]
        exact .some _ (Frame.level_settable _ name)
    | call place alike | plain place alike =>
        cases alike with
        | value => exact .some _ (.refl _)
        | assignment name => exact follows_assignment situation name _ (free name rfl)
    | _ => rcases form with form | form <;> cases form
  · rw [unread]
    have none : situation.frame.loopName.assign? name = none := by
      rw [assign_eq, if_pos blocked]
    cases found with
    | call place statement | plain place statement =>
        cases statement with
        | value => cases assigned
        | assignment =>
            cases assigned
            rw [Heading.pass?, none]
            exact .none
    | _ => cases assigned

theorem loopName_enter (alike : found.Like (Named situation) found') :
    (found'.enter situation).frame.loopName = found.enterLoop situation.frame.loopName := by
  cases alike with
  | forLoop place element => exact Frame.loopName_enterFor _ element
  | macroDef place name parameters => exact Frame.loopName_ofParameters parameters
  | _ => rfl

/-- A tag with the block that it encloses. -/
theorem follows_leave (alike : found.Like (Named situation) found')
    (form : found.form = .enclosing) {inside : Situation}
    (level : (found'.enter situation).frame.Level inside.frame) (nodes : List Node) :
    Follows situation (found'.leave? settings situation inside nodes)
      (some (found.leaveLoop situation.frame.loopName inside.frame.loopName)) := by
  cases alike with
  | forLoop place element =>
      obtain ⟨level, same⟩ := Frame.Level.leaveFor level
      show Follows situation _ (some situation.frame.loopName)
      rw [← same]
      exact .some _ level
  | whileLoop place =>
      obtain ⟨level, same⟩ := Frame.Level.leaveScope level
      show Follows situation _ (some situation.frame.loopName)
      rw [← same]
      exact .some _ level
  | macroDef place name parameters => exact .some _ (.refl _)
  | wrapper place => exact .some _ level
  | _ => cases form

/-! ## Blocks -/

theorem exists_alone {items : List Item} (directives : Directives settings items)
    (inside : Item.tag tag ∈ items) : ∃ found, tag.read settings .plain = some found ∧
      found.form = tag.form := by
  obtain ⟨found, read⟩ := Option.isSome_iff_exists.mp (directives tag inside)
  exact ⟨found, read, tag.form_of_read read⟩

/-- A tag that assigns to nothing can be read where it stands. -/
theorem exists_read {items : List Item} (directives : Directives settings items)
    (inside : Item.tag tag ∈ items) (other : tag.form ≠ .simple) (situation : Situation) :
    ∃ found found', tag.read settings .plain = some found ∧ found.form = tag.form ∧
      tag.read settings situation = some found' ∧ found.Like (Named situation) found' := by
  obtain ⟨found, alone, same⟩ := exists_alone directives inside
  rcases Tag.read_of_alone alone situation with
    ⟨-, found', read, alike⟩ | ⟨⟨name, assigned, -⟩, -⟩
  · exact ⟨found, found', alone, same, read, alike⟩
  · cases found <;> first | exact absurd same.symm other | cases assigned

mutual

theorem Block.follows : (derived : Block) → Directives settings derived.items → ∀ situation,
    Follows situation (derived.nodes? settings situation)
      (derived.loopName? settings situation.frame.loopName)
  | .nil, _, situation => .some [] (.refl _)
  | .text token raw derived, directives, situation => by
      have directives := directives.tail
      exact (derived.follows directives situation).return _
  | .empty tag form derived, directives, situation
  | .simple tag form derived, directives, situation => by
      obtain ⟨found, alone, same⟩ := exists_alone directives List.mem_cons_self
      have directives := directives.tail
      rw [Block.nodes?, Block.loopName?, alone, ← bind_assoc]
      have follows := follows_alone alone (by rw [same, form]; decide) situation
      exact follows.bind fun nodes after => (derived.follows directives after).return _
  | .conditional tag form body branches derived, directives, situation => by
      obtain ⟨found, found', -, same, read, alike⟩ :=
        exists_read directives List.mem_cons_self (by rw [form]; nofun) situation
      rw [form] at same
      obtain ⟨inner, behind⟩ := directives.parts
      rw [Block.nodes?, Block.loopName?, read]
      cases alike <;> cases same
      refine (body.follows inner situation).bind fun positive between => ?_
      refine (branches.follows (behind.subset (List.subset_append_left _ _)) between).bind
        fun negative after => ?_
      exact (derived.follows (behind.subset (List.subset_append_right _ _)) after).return _
  | .enclosing tag form body closing closes derived, directives, situation => by
      obtain ⟨found, found', alone, same, read, alike⟩ :=
        exists_read directives List.mem_cons_self (by rw [form]; nofun) situation
      rw [form] at same
      obtain ⟨inner, behind⟩ := directives.parts
      rw [Block.nodes?, Block.loopName?, read, alone]
      have follows := body.follows inner (found'.enter situation)
      rw [loopName_enter alike] at follows
      refine follows.within fun nodes inside level => ?_
      obtain ⟨_, _, -, -, read', -⟩ :=
        exists_read behind List.mem_cons_self (by rw [closes]; nofun) inside
      dsimp only
      rw [read']
      refine (follows_leave alike same level nodes).bind fun node after => ?_
      exact (derived.follows behind.tail after).return _

theorem Branches.follows : (derived : Branches) → Directives settings derived.items → ∀ situation,
    Follows situation (derived.nodes? settings situation)
      (derived.loopName? settings situation.frame.loopName)
  | .close tag closes, directives, situation => by
      obtain ⟨_, _, -, -, read, -⟩ :=
        exists_read directives List.mem_cons_self (by rw [closes]; nofun) situation
      rw [Branches.nodes?, read]
      exact .some [] (.refl _)
  | .otherwise tag form body closing closes, directives, situation => by
      obtain ⟨_, _, -, -, read, -⟩ :=
        exists_read directives List.mem_cons_self (by rw [form]; nofun) situation
      obtain ⟨inner, behind⟩ := directives.parts
      rw [Branches.nodes?, Branches.loopName?, read, ← bind_pure (body.loopName? settings _)]
      refine (body.follows inner situation).bind fun nodes after => ?_
      obtain ⟨_, _, -, -, read', -⟩ :=
        exists_read behind List.mem_cons_self (by rw [closes]; nofun) after
      dsimp only
      rw [read']
      exact .some nodes (.refl _)
  | .otherwiseIf tag form body branches, directives, situation => by
      obtain ⟨found, found', -, same, read, alike⟩ :=
        exists_read directives List.mem_cons_self (by rw [form]; nofun) situation
      rw [form] at same
      obtain ⟨inner, behind⟩ := directives.parts
      rw [Branches.nodes?, Branches.loopName?, read]
      cases alike <;> cases same
      refine (body.follows inner situation).bind fun positive between => ?_
      exact (branches.follows behind between).return ([Node.conditional _ _ positive ·])

end

end

end Stencil.Template

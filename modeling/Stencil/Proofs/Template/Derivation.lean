import Stencil.Proofs.Template.Tags

/-!
# Derivations

How texts and tags make up blocks, and the nodes of a block that is made up so. The derivations know
the forms of tags only; what the tags say is read in the situations where they stand.
-/

namespace Stencil.Template

mutual

/-- A block: texts and tags, and conditionals and other directives with blocks of their own. -/
inductive Block where
  | nil
  | text (token : Token) (raw : token.kind = .rawText) (rest : Block)
  | empty (tag : Tag) (form : tag.form = .empty) (rest : Block)
  | simple (tag : Tag) (form : tag.form = .simple) (rest : Block)
  | conditional (tag : Tag) (form : tag.form = .conditional) (body : Block) (branches : Branches)
      (rest : Block)
  | enclosing (tag : Tag) (form : tag.form = .enclosing) (body : Block) (closing : Tag)
      (closes : closing.form = .close) (rest : Block)

/-- What stands behind the first block of a conditional. -/
inductive Branches where
  | close (tag : Tag) (closes : tag.form = .close)
  | otherwise (tag : Tag) (form : tag.form = .otherwise) (body : Block) (closing : Tag)
      (closes : closing.form = .close)
  | otherwiseIf (tag : Tag) (form : tag.form = .otherwiseIf) (body : Block) (branches : Branches)

end

mutual

def Block.items : Block → List Item
  | .nil => []
  | .text token raw rest => .text token raw :: rest.items
  | .empty tag _ rest | .simple tag _ rest => .tag tag :: rest.items
  | .conditional tag _ body branches rest =>
      .tag tag :: (body.items ++ (branches.items ++ rest.items))
  | .enclosing tag _ body closing _ rest => .tag tag :: (body.items ++ .tag closing :: rest.items)

def Branches.items : Branches → List Item
  | .close tag _ => [.tag tag]
  | .otherwise tag _ body closing _ => .tag tag :: (body.items ++ [.tag closing])
  | .otherwiseIf tag _ body branches => .tag tag :: (body.items ++ branches.items)

end

/-! ## What headings give -/

/-- The node of a statement, with the slot of the variable that it assigns. -/
def Statement.node (situation : Situation) : Statement → Node × Situation
  | value node => (node, situation)
  | assignment place name operand =>
      (.assign place name (situation.frame.assignable name).1 operand,
        { situation with frame := (situation.frame.assignable name).2 })

namespace Heading

/-- An assignment is not printed. -/
def plainNode (place : Place) : Node → Node
  | .assign target name slot value => .discard place (.assign target name slot value)
  | value => .print place value

/-- What a tag gives that no block belongs to. -/
def nodes? (situation : Situation) : Heading → Option (List Node × Situation)
  | empty => some ([], situation)
  | print place value => some ([.print place value], situation)
  | set place name value =>
      some ([.discard place (.assign place name (situation.frame.settable name).1 value)],
        { situation with frame := (situation.frame.settable name).2 })
  | call place statement =>
      some ([.discard place (statement.node situation).1], (statement.node situation).2)
  | plain place statement =>
      some ([plainNode place (statement.node situation).1], (statement.node situation).2)
  | inclusion place template bound => some ([.inclusion place template bound], situation)
  | _ => none

/-- The condition of a conditional, or of a further branch, which is a conditional of its own. -/
def condition? : Heading → Option (Place × Node)
  | conditional place condition => some (place, condition)
  | otherwiseIf token condition => some (token.place, condition)
  | _ => none

/-- The situation in a block that a tag encloses. -/
def enter (situation : Situation) : Heading → Situation
  | forLoop _ element _ => { situation with frame := (situation.frame.enterFor element).2 }
  | whileLoop _ _ => { situation with frame := situation.frame.enterWhile.2 }
  | macroDef _ name parameters =>
      ⟨.ofParameters parameters, withMacro name situation.macros⟩
  | _ => situation

/-- The node of a tag with the block that it encloses, and the situation behind it. -/
def leave? (settings : Settings) (before after : Situation) (nodes : List Node) :
    Heading → Option (Node × Situation)
  | forLoop place element source =>
      some (.forLoop place element (before.frame.enterFor element).1 source nodes
        settings.maxIterations, { after with frame := after.frame.leaveFor })
  | whileLoop place condition =>
      some (.whileLoop place condition nodes before.frame.enterWhile.1 settings.maxIterations,
        { after with frame := after.frame.leaveScope })
  | macroDef place name parameters =>
      some (.macroDef place name parameters nodes, { after with frame := before.frame })
  | wrapper place template bound => some (.wrapper place template bound nodes, after)
  | _ => none

/-- How a block ends at a tag. -/
def ending? : Heading → Option Ending
  | otherwiseIf token condition => some (.otherwiseIf token condition)
  | otherwise token => some (.otherwise token)
  | close token => some (.ofBlock token)
  | _ => none

end Heading

/-! ## The nodes of a derivation -/

section

variable (settings : Settings)

mutual

/-- The nodes of a block, and the situation behind it, if its tags can be read where they stand. -/
def Block.nodes? : Block → Situation → Option (List Node × Situation)
  | .nil, situation => some ([], situation)
  | .text token _ rest, situation => do
      let (nodes, situation) ← rest.nodes? situation
      return (.text token.place token.value :: nodes, situation)
  | .empty tag _ rest, situation | .simple tag _ rest, situation => do
      let (nodes, situation) ← (← tag.read settings situation).nodes? situation
      let (others, situation) ← rest.nodes? situation
      return (nodes ++ others, situation)
  | .conditional tag _ body branches rest, situation => do
      let (place, condition) ← (← tag.read settings situation).condition?
      let (positive, situation) ← body.nodes? situation
      let (negative, situation) ← branches.nodes? situation
      let (others, situation) ← rest.nodes? situation
      return (.conditional place condition positive negative :: others, situation)
  | .enclosing tag _ body closing _ rest, situation => do
      let heading ← tag.read settings situation
      let (nodes, inside) ← body.nodes? (heading.enter situation)
      let _ ← closing.read settings inside
      let (node, situation) ← heading.leave? settings situation inside nodes
      let (others, situation) ← rest.nodes? situation
      return (node :: others, situation)

/-- The nodes of the other branch of a conditional: a further condition is a conditional there, and
the only node. -/
def Branches.nodes? : Branches → Situation → Option (List Node × Situation)
  | .close tag _, situation => do
      let _ ← tag.read settings situation
      return ([], situation)
  | .otherwise tag _ body closing _, situation => do
      let _ ← tag.read settings situation
      let (nodes, situation) ← body.nodes? situation
      let _ ← closing.read settings situation
      return (nodes, situation)
  | .otherwiseIf tag _ body branches, situation => do
      let (place, condition) ← (← tag.read settings situation).condition?
      let (positive, situation) ← body.nodes? situation
      let (negative, situation) ← branches.nodes? situation
      return ([.conditional place condition positive negative], situation)

end

end

section

variable {settings : Settings} {situation inside between after last : Situation}
  {nodes positive negative others : List Node} {found found' : Heading} {place : Place}
  {condition node : Node} {tag closing : Tag} {token : Token} {body derived : Block}
  {branches : Branches}

theorem Branches.nodes?_close (closes : tag.form = .close)
    (read : tag.read settings situation = some found) :
    (Branches.close tag closes).nodes? settings situation = some ([], situation) := by
  simp [Branches.nodes?, read]

theorem Branches.nodes?_otherwise (form : tag.form = .otherwise) (closes : closing.form = .close)
    (read : tag.read settings situation = some found)
    (inner : body.nodes? settings situation = some (nodes, after))
    (read' : closing.read settings after = some found') :
    (Branches.otherwise tag form body closing closes).nodes? settings situation =
      some (nodes, after) := by
  simp [Branches.nodes?, read, inner, read']

theorem Branches.nodes?_otherwiseIf (form : tag.form = .otherwiseIf)
    (read : tag.read settings situation = some found)
    (asked : found.condition? = some (place, condition))
    (inner : body.nodes? settings situation = some (positive, between))
    (others : branches.nodes? settings between = some (negative, after)) :
    (Branches.otherwiseIf tag form body branches).nodes? settings situation =
      some ([.conditional place condition positive negative], after) := by
  simp [Branches.nodes?, read, asked, inner, others]

theorem Block.nodes?_text (raw : token.kind = .rawText)
    (behind : derived.nodes? settings situation = some (others, last)) :
    (Block.text token raw derived).nodes? settings situation =
      some (.text token.place token.value :: others, last) := by
  simp [Block.nodes?, behind]

theorem Block.nodes?_empty (form : tag.form = .empty)
    (read : tag.read settings situation = some found)
    (gives : found.nodes? situation = some (nodes, after))
    (behind : derived.nodes? settings after = some (others, last)) :
    (Block.empty tag form derived).nodes? settings situation = some (nodes ++ others, last) := by
  simp [Block.nodes?, read, gives, behind]

theorem Block.nodes?_simple (form : tag.form = .simple)
    (read : tag.read settings situation = some found)
    (gives : found.nodes? situation = some (nodes, after))
    (behind : derived.nodes? settings after = some (others, last)) :
    (Block.simple tag form derived).nodes? settings situation = some (nodes ++ others, last) := by
  simp [Block.nodes?, read, gives, behind]

theorem Block.nodes?_conditional (form : tag.form = .conditional)
    (read : tag.read settings situation = some found)
    (asked : found.condition? = some (place, condition))
    (inner : body.nodes? settings situation = some (positive, between))
    (branching : branches.nodes? settings between = some (negative, after))
    (behind : derived.nodes? settings after = some (others, last)) :
    (Block.conditional tag form body branches derived).nodes? settings situation =
      some (.conditional place condition positive negative :: others, last) := by
  simp [Block.nodes?, read, asked, inner, branching, behind]

theorem Block.nodes?_enclosing (form : tag.form = .enclosing) (closes : closing.form = .close)
    (read : tag.read settings situation = some found)
    (inner : body.nodes? settings (found.enter situation) = some (nodes, inside))
    (read' : closing.read settings inside = some found')
    (leaves : found.leave? settings situation inside nodes = some (node, after))
    (behind : derived.nodes? settings after = some (others, last)) :
    (Block.enclosing tag form body closing closes derived).nodes? settings situation =
      some (node :: others, last) := by
  simp [Block.nodes?, read, inner, read', leaves, behind]

end

end Stencil.Template

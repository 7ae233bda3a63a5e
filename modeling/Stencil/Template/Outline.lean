import Stencil.Decimal.Style
import Stencil.Template.Node
import Stencil.Text.Quoted

/-!
# Outlines of trees

A tree is shown as nested records, one field to a line, indented by four blanks a level.
-/

namespace Stencil

inductive Outline where
  | atom (text : String)
  | record (name : String) (fields : List (String × Outline))
  /-- Parts without names; without a name of its own it is a pair. -/
  | tuple (name : String) (parts : List Outline)
  | list (items : List Outline)

namespace Outline

def margin (depth : Nat) : String :=
  "".pushn ' ' (4 * depth)

mutual

/-- The text of an outline whose first line is already indented. -/
def render (depth : Nat) : Outline → String
  | atom text => text
  | record name fields =>
      name ++ " \x7b\n" ++ renderFields (depth + 1) fields ++ margin depth ++ "\x7d"
  | tuple name parts => name ++ "(\n" ++ renderParts (depth + 1) parts ++ margin depth ++ ")"
  | list [] => "[]"
  | list (first :: rest) =>
      "[\n" ++ margin (depth + 1) ++ render (depth + 1) first ++ ",\n" ++
        renderParts (depth + 1) rest ++ margin depth ++ "]"

def renderParts (depth : Nat) : List Outline → String
  | [] => ""
  | first :: rest => margin depth ++ render depth first ++ ",\n" ++ renderParts depth rest

def renderFields (depth : Nat) : List (String × Outline) → String
  | [] => ""
  | (name, first) :: rest =>
      margin depth ++ name ++ ": " ++ render depth first ++ ",\n" ++ renderFields depth rest

end

def quoted (text : String) : Outline :=
  atom (Text.Quoted.encode text)

def number (n : Nat) : Outline :=
  atom (toString n)

end Outline

open Outline

def Place.outline (place : Place) : Outline :=
  record "Span" [("pos", number place.offset), ("line", number place.line)]

namespace Node

/-- A node is shown with its place and its kind. -/
def framed (place : Place) (kind : Outline) : Outline :=
  record "Node" [("span", place.outline), ("kind", kind)]

mutual

def outline : Node → Outline
  | text place content => framed place (tuple "Text" [quoted content])
  | int place n => framed place (tuple "Int" [atom (toString n.toInt)])
  | uint place n => framed place (tuple "UInt" [atom (toString n.toNat)])
  | float place x => framed place (tuple "Float" [atom (Decimal.listing.write x)])
  | string place content => framed place (tuple "Str" [quoted content])
  | bool place b => framed place (tuple "Bool" [atom (if b then "true" else "false")])
  | nil place => framed place (atom "Nil")
  | localVar place name slot =>
      framed place (record "LocalVar" [("name", quoted name), ("slot", number slot)])
  | symbol place name => framed place (tuple "Symbol" [quoted name])
  | loopVar place slot => framed place (record "LoopVar" [("slot", number slot)])
  | field place container name =>
      framed place (record "Field" [("container", outline container), ("name", quoted name)])
  | index place container position =>
      framed place
        (record "Index" [("container", outline container), ("index", outline position)])
  | methodCall place invocant name arguments =>
      framed place
        (record "MethodCall" [("invocant", outline invocant), ("name", quoted name),
          ("args", Outline.list (outlines arguments))])
  | functionCall place name arguments =>
      framed place
        (record "FunCall" [("name", quoted name), ("args", Outline.list (outlines arguments))])
  | macroCall place name arguments =>
      framed place
        (record "MacroCall" [("name", quoted name), ("args", Outline.list (outlines arguments))])
  | filter place operand name =>
      framed place (record "Filter" [("expr", outline operand), ("name", quoted name)])
  | unary place op operand =>
      framed place (record "Unary" [("op", atom op.name), ("operand", outline operand)])
  | binary place op left right =>
      framed place
        (record "Binary" [("op", atom op.name), ("left", outline left), ("right", outline right)])
  | assign place name slot value =>
      framed place
        (record "Assign" [("name", quoted name), ("slot", number slot), ("value", outline value)])
  | list place items => framed place (tuple "List" [Outline.list (outlines items)])
  | range place first last =>
      framed place (record "Range" [("start", outline first), ("end", outline last)])
  | print place operand => framed place (tuple "Print" [outline operand])
  | discard place operand => framed place (tuple "Discard" [outline operand])
  | conditional place condition positive negative =>
      framed place
        (record "If" [("cond", outline condition), ("then", Outline.list (outlines positive)),
          ("otherwise", Outline.list (outlines negative))])
  | forLoop place element slot source body maxIterations =>
      framed place
        (record "Foreach" [("var", quoted element), ("slot", number slot),
          ("list", outline source), ("body", Outline.list (outlines body)),
          ("max_iterations", number maxIterations)])
  | whileLoop place condition body slot maxIterations =>
      framed place
        (record "While" [("cond", outline condition), ("body", Outline.list (outlines body)),
          ("counter_slot", number slot), ("max_iterations", number maxIterations)])
  | macroDef place name parameters body =>
      framed place
        (record "Macro" [("name", quoted name), ("params", Outline.list (parameters.map quoted)),
          ("body", Outline.list (outlines body))])
  | inclusion place template bindings =>
      framed place
        (record "Include" [("template", outline template),
          ("bindings", Outline.list (bindingOutlines bindings))])
  | wrapper place template bindings body =>
      framed place
        (record "Wrapper" [("template", outline template),
          ("bindings", Outline.list (bindingOutlines bindings)),
          ("body", Outline.list (outlines body))])

def outlines : List Node → List Outline
  | [] => []
  | first :: rest => outline first :: outlines rest

def bindingOutlines : List (String × Node) → List Outline
  | [] => []
  | (name, first) :: rest => tuple "" [quoted name, outline first] :: bindingOutlines rest

end

end Node

def Template.outline (template : Template) : Outline :=
  record "Template"
    [("name", quoted template.name), ("nodes", Outline.list (Node.outlines template.nodes))]

end Stencil

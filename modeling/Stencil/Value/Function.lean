import Stencil.Text.Html
import Stencil.Text.Percent
import Stencil.Text.Search
import Stencil.Unicode.Case
import Stencil.Value.Number

/-!
# Functions

The functions that every template may call, by name or as a filter, and the methods that texts,
lists and maps understand. Changing the letters of a raw text leaves it raw.
-/

namespace Stencil

/-- What a call yields. -/
abbrev Answer := Except Fault Value

namespace Value

/-- Changes the text of a value; only raw texts stay raw. -/
def mapText (change : List Char → List Char) : Value → Value
  | raw s => raw (.ofList (change s.toList))
  | other => text (.ofList (change other.display.toList))

def length : Value → Answer
  | text s | raw s => .ok (ofNat s.toList.length)
  | list items => .ok (ofNat items.length)
  | map entries => .ok (ofNat entries.length)
  | nil => .ok (ofNat 0)
  | other => .error (.typeMismatch "string, list or map" other.typeName)

def reverse : Value → Answer
  | text s => .ok (text (.ofList s.toList.reverse))
  | raw s => .ok (raw (.ofList s.toList.reverse))
  | list items => .ok (list items.reverse)
  | other => .error (.typeMismatch "string or list" other.typeName)

/-- The texts of the elements, with a separator between them. -/
def join (separator : String) : Value → Answer
  | list items => .ok (text (separator.intercalate (items.map display)))
  | other => .error (.typeMismatch "list" other.typeName)

def escapeHtml (value : Value) : Value :=
  raw (Text.Html.escape value.display)

def escapeUri (value : Value) : Value :=
  text (Text.Percent.encode value.display)

/-- The value itself unless it counts as false. -/
def orElse (value fallback : Value) : Value :=
  if value.isTruthy then value else fallback

/-- The pieces of a text between the occurrences of a separator. -/
def splitText (s separator : String) : Value :=
  list ((Text.split separator.toList s.toList).map fun piece => text (.ofList piece))

/-- The methods of texts, lists and maps; `none` for all other names, values and counts of
arguments. -/
def method? (value : Value) (name : String) (arguments : List Value) : Option Answer :=
  match value, name, arguments with
  | text _, "length", [] | text _, "size", [] => some value.length
  | raw _, "length", [] | raw _, "size", [] => some value.length
  | list _, "length", [] | list _, "size", [] => some value.length
  | map _, "length", [] | map _, "size", [] => some value.length
  | text _, "upper", [] | raw _, "upper", [] => some (.ok (value.mapText Unicode.upper))
  | text _, "lower", [] | raw _, "lower", [] => some (.ok (value.mapText Unicode.lower))
  | text _, "trim", [] | raw _, "trim", [] => some (.ok (value.mapText Text.trim))
  | text s, "split", [separator] | raw s, "split", [separator] =>
      some (.ok (splitText s separator.display))
  | text s, "contains", [target] | raw s, "contains", [target] =>
      some (.ok (bool (Text.contains target.display.toList s.toList)))
  | list items, "first", [] => some (.ok (items.head?.getD nil))
  | list items, "last", [] => some (.ok (items.getLast?.getD nil))
  | list _, "join", [] => some (value.join "")
  | list _, "join", [separator] => some (value.join separator.display)
  | list _, "reverse", [] | text _, "reverse", [] | raw _, "reverse", [] => some value.reverse
  | map entries, "keys", [] => some (.ok (list ((Dictionary.keys entries).map text)))
  | map entries, "values", [] => some (.ok (list (Dictionary.values entries)))
  | map entries, "exists", [key] =>
      some (.ok (bool (Dictionary.find? entries key.display).isSome))
  | _, _, _ => none

end Value

namespace Function

/-- A function of one argument. -/
def unary (name : String) (apply : Value → Answer) : List Value → Answer
  | [value] => apply value
  | arguments => .error (.arity "function" name 1 arguments.length)

def binary (name : String) (apply : Value → Value → Answer) : List Value → Answer
  | [first, second] => apply first second
  | arguments => .error (.arity "function" name 2 arguments.length)

def joinAll : List Value → Answer
  | [value] => value.join ""
  | [value, separator] => value.join separator.display
  | arguments => .error (.arity "function" "join" 2 arguments.length)

/-- The functions that need no registration. -/
def builtin? (name : String) : Option (List Value → Answer) :=
  match name with
  | "upper" => some (unary name fun value => .ok (value.mapText Unicode.upper))
  | "lower" => some (unary name fun value => .ok (value.mapText Unicode.lower))
  | "trim" => some (unary name fun value => .ok (value.mapText Text.trim))
  | "length" => some (unary name Value.length)
  | "reverse" => some (unary name Value.reverse)
  | "join" => some joinAll
  | "abs" => some (unary name fun value => .ok value.abs)
  | "default" => some (binary name fun value fallback => .ok (value.orElse fallback))
  | "html" => some (unary name fun value => .ok value.escapeHtml)
  | "uri" => some (unary name fun value => .ok value.escapeUri)
  | _ => none

end Function

end Stencil

/-!
# Text inside HTML

The five characters that mean something in element content and in attribute values are written as
entities, all others as themselves.
-/

namespace Stencil.Text.Html

/-- The entity of a character that must not stand as itself. -/
def entity? : Char → Option String
  | '&' => some "&amp;"
  | '<' => some "&lt;"
  | '>' => some "&gt;"
  | '"' => some "&quot;"
  | '\'' => some "&#39;"
  | _ => none

def escapeChar (c : Char) : List Char :=
  match entity? c with
  | some entity => entity.toList
  | none => [c]

def escape (text : String) : String :=
  .ofList (text.toList.flatMap escapeChar)

theorem toList_escape (text : String) : (escape text).toList = text.toList.flatMap escapeChar := by
  simp [escape]

end Stencil.Text.Html

import Stencil.Machine.Step
import Stencil.Proofs.Text.Escaped

/-!
# Escaped texts that are handed on

What becomes of an escaped text that is filtered again, joined to others, put into a list and
passed to macros and templates, link by link of a chain. Some links take the mark of a raw text
away, or do not heed it: after these, what has an entity is escaped again at the latest where it is
printed.
-/

namespace Stencil

open Text.Html (Covers Exceeds Special covers_escape escape)

/-- What is done to an escaped text, or where it is passed to. -/
inductive Link where
  | html
  | trim
  /-- An escaped piece is put in front. -/
  | ahead (piece : Value)
  /-- An escaped piece is put behind. -/
  | behind (piece : Value)
  /-- The text is put into a list and taken out as the first element. -/
  | first
  | last
  | join
  /-- The text is passed to a macro. -/
  | argument
  /-- The macro that the text was passed to prints it. -/
  | returned
  /-- The text is passed to a template. -/
  | binding

/-- What printing a value writes. -/
def Value.printed : Value → String
  | nil => ""
  | raw s => s
  | other => escape other.display

namespace Link

/-- What a link makes of a value. -/
def on : Link → Value → Value
  | html, value => value.escapeHtml
  | trim, value => value.mapText Text.trim
  | ahead piece, value => Machine.concatenate piece.escapeHtml value
  | behind piece, value => Machine.concatenate value piece.escapeHtml
  | join, value => .text value.display
  | returned, value => .raw value.printed
  | first, value | last, value | argument, value | binding, value => value

/-- What a link makes of a text, escaping left aside. -/
def onText : Link → String → String
  | trim, text => .ofList (Text.trim text.toList)
  | ahead piece, text => piece.display ++ text
  | behind piece, text => text ++ piece.display
  | _, text => text

/-- The link leaves a raw text raw and does not escape it. -/
def Keeps : Link → Prop
  | html | ahead _ | behind _ | join => False
  | _ => True

instance : (link : Link) → Decidable link.Keeps
  | html | ahead _ | behind _ | join => isFalse id
  | trim | first | last | argument | returned | binding => isTrue trivial

end Link

/-- What a chain of links makes of a value. -/
def Value.along (value : Value) (chain : List Link) : Value :=
  chain.foldl (fun value link => link.on value) value

/-- What a chain of links makes of a text that is never escaped. -/
def Text.along (text : String) (chain : List Link) : String :=
  chain.foldl (fun text link => link.onText text) text

theorem Value.along_append (value : Value) (chain chain' : List Link) :
    value.along (chain ++ chain') = (value.along chain).along chain' :=
  List.foldl_append

/-- A text that goes through a macro comes back as the macro prints it. -/
theorem Value.along_returned (value : Value) (chain chain' : List Link) :
    value.along (chain ++ Link.argument :: (chain' ++ [Link.returned])) =
      .raw ((value.along chain).along chain').printed := by
  rw [along_append, ← List.cons_append, along_append]
  rfl

theorem Value.along_binding (value : Value) (chain chain' : List Link) :
    value.along (chain ++ Link.binding :: chain') = (value.along chain).along chain' :=
  along_append value chain _

/-- The value is a text. -/
def Value.Textual (value : Value) : Prop :=
  ∃ s, value = .text s ∨ value = .raw s

variable {value : Value} {text : String} {link : Link} {chain : List Link}

theorem Value.textual_escapeHtml (value : Value) : value.escapeHtml.Textual :=
  ⟨_, .inr rfl⟩

theorem Value.Textual.on (textual : value.Textual) (link : Link) : (link.on value).Textual := by
  obtain ⟨s, rfl | rfl⟩ := textual <;> cases link <;>
    first | exact ⟨_, .inl rfl⟩ | exact ⟨_, .inr rfl⟩

theorem Value.Textual.along (textual : value.Textual) (chain : List Link) :
    (value.along chain).Textual := by
  induction chain generalizing value with
  | nil => exact textual
  | cons link rest ih => exact ih (textual.on link)

/-- Links take no special character away. -/
theorem Text.special_on (special : Special text.toList) (link : Link) :
    Special (link.onText text).toList := by
  cases link with
  | trim =>
      simp only [Link.onText, String.toList_ofList]
      exact Html.special_trim.mpr special
  | ahead piece =>
      simp only [Link.onText, String.toList_append]
      exact Html.special_append.mpr (.inr special)
  | behind piece =>
      simp only [Link.onText, String.toList_append]
      exact Html.special_append.mpr (.inl special)
  | html | first | last | join | argument | returned | binding => exact special

theorem Text.special_along (special : Special text.toList) (chain : List Link) :
    Special (Text.along text chain).toList := by
  induction chain generalizing text with
  | nil => exact special
  | cons link rest ih => exact ih (Text.special_on special link)

/-! ## Marked texts stay marked -/

/-- The text, escaped once and marked so. -/
def Value.IsEscaped (value : Value) (text : String) : Prop :=
  value = .raw (escape text)

theorem Value.IsEscaped.on (escaped : value.IsEscaped text) (keeps : link.Keeps) :
    (link.on value).IsEscaped (link.onText text) := by
  cases escaped
  cases link with
  | trim => exact congrArg Value.raw (Text.Html.escape_trim text).symm
  | html | ahead | behind | join => exact keeps.elim
  | first | last | argument | returned | binding => rfl

theorem Value.IsEscaped.along (escaped : value.IsEscaped text) (keep : ∀ link ∈ chain, link.Keeps) :
    (value.along chain).IsEscaped (Text.along text chain) := by
  induction chain generalizing value text with
  | nil => exact escaped
  | cons link rest ih =>
      obtain ⟨first, others⟩ := List.forall_mem_cons.mp keep
      exact ih (escaped.on first) others

/-! ## Texts without special characters -/

/-- The value is a text as it stands. -/
def Value.IsPlain (value : Value) (text : String) : Prop :=
  value = .text text ∨ value = .raw text

theorem Value.IsPlain.on (plain : value.IsPlain text) (none : ¬ Special (link.onText text).toList) :
    (link.on value).IsPlain (link.onText text) := by
  have text_none : ¬ Special text.toList := fun special => none (Text.special_on special link)
  have as_it_stands := Text.Html.escape_of_not_special text_none
  have shown : value.display = text := by
    obtain rfl | rfl := plain <;> rfl
  cases link with
  | html =>
      refine .inr (congrArg Value.raw ?_)
      rw [shown, as_it_stands]
      rfl
  | trim =>
      obtain rfl | rfl := plain
      · exact .inl rfl
      · exact .inr rfl
  | ahead piece =>
      simp only [Link.onText, String.toList_append, Text.Html.special_append, not_or] at none
      refine .inl (congrArg Value.text ?_)
      rw [shown]
      exact congrArg (· ++ text) (Text.Html.escape_of_not_special none.1)
  | behind piece =>
      simp only [Link.onText, String.toList_append, Text.Html.special_append, not_or] at none
      refine .inl (congrArg Value.text ?_)
      rw [shown]
      exact congrArg (text ++ ·) (Text.Html.escape_of_not_special none.2)
  | join => exact .inl (congrArg Value.text shown)
  | returned =>
      obtain rfl | rfl := plain
      · exact .inr (congrArg Value.raw as_it_stands)
      · exact .inr rfl
  | first | last | argument | binding => exact plain

theorem Value.IsPlain.along (plain : value.IsPlain text)
    (none : ¬ Special (Text.along text chain).toList) :
    (value.along chain).IsPlain (Text.along text chain) := by
  induction chain generalizing value text with
  | nil => exact plain
  | cons link rest ih =>
      refine ih (plain.on fun special => none ?_) none
      exact Text.special_along special rest

/-! ## Texts that are escaped again -/

/-- The value is a text that has been escaped too often, or that will have been when it is printed,
if anything in it has an entity. -/
inductive Value.Overdone : Value → String → Prop where
  | text {s text : String} (covers : Covers s text) : Overdone (.text s) text
  | raw {s text : String} (exceeds : Exceeds s text) : Overdone (.raw s) text

/-- A link that escapes or joins overdoes it with a text that has been escaped. -/
theorem Value.IsEscaped.overdone (escaped : value.IsEscaped text) (spoils : ¬ link.Keeps) :
    (link.on value).Overdone (link.onText text) := by
  cases escaped
  have covers := covers_escape text
  cases link with
  | html => exact .raw covers.escape
  | ahead piece => exact .text ((covers_escape piece.display).append covers)
  | behind piece => exact .text (covers.append (covers_escape piece.display))
  | join => exact .text covers
  | trim | first | last | argument | returned | binding => exact (spoils trivial).elim

/-- What is overdone remains so. -/
theorem Value.Overdone.on (overdone : value.Overdone text) (link : Link) :
    (link.on value).Overdone (link.onText text) := by
  have covers : Covers value.display text := by
    obtain ⟨covers⟩ | ⟨exceeds⟩ := overdone
    · exact covers
    · exact exceeds.toCovers
  cases link with
  | html => exact .raw covers.escape
  | trim =>
      cases overdone with
      | text covers => exact .text covers.trim
      | raw exceeds => exact .raw exceeds.trim
  | ahead piece => exact .text ((covers_escape piece.display).append covers)
  | behind piece => exact .text (covers.append (covers_escape piece.display))
  | join => exact .text covers
  | returned =>
      cases overdone with
      | text covers => exact .raw covers.escape
      | raw exceeds => exact .raw exceeds
  | first | last | argument | binding => exact overdone

theorem Value.Overdone.along (overdone : value.Overdone text) (chain : List Link) :
    (value.along chain).Overdone (Text.along text chain) := by
  induction chain generalizing value text with
  | nil => exact overdone
  | cons link rest ih => exact ih (overdone.on link)

theorem Value.IsEscaped.overdone_along (escaped : value.IsEscaped text)
    (spoils : ¬ ∀ link ∈ chain, link.Keeps) :
    (value.along chain).Overdone (Text.along text chain) := by
  induction chain generalizing value text with
  | nil => exact absurd nofun spoils
  | cons link rest ih =>
      by_cases keeps : link.Keeps
      · exact ih (escaped.on keeps) fun others =>
          spoils (List.forall_mem_cons.mpr ⟨keeps, others⟩)
      · exact (escaped.overdone keeps).along rest

theorem Value.Overdone.exceeds_printed (overdone : value.Overdone text) :
    Exceeds value.printed text := by
  cases overdone with
  | text covers => exact covers.escape
  | raw exceeds => exact exceeds

/-! ## Whole chains -/

/-- What a chain makes of an escaped text is printed as if the text had been escaped once, at the
end, just where every link keeps it, or where no character of it has an entity. -/
theorem Value.printed_along_iff (value : Value) (chain : List Link) :
    (value.escapeHtml.along chain).printed = escape (Text.along value.display chain) ↔
      (∀ link ∈ chain, link.Keeps) ∨ ¬ Special (Text.along value.display chain).toList := by
  have escaped : value.escapeHtml.IsEscaped value.display := rfl
  constructor
  · intro same
    by_contra neither
    obtain ⟨spoils, special⟩ := not_or.mp neither
    have heavier := (escaped.overdone_along spoils).exceeds_printed.heavier (not_not.mp special)
    rw [same] at heavier
    exact Nat.lt_irrefl _ heavier
  · rintro (keep | none)
    · exact congrArg Value.printed (escaped.along keep)
    · have plain : value.escapeHtml.IsPlain value.display := by
        refine .inr (congrArg Value.raw (Text.Html.escape_of_not_special ?_))
        exact fun special => none (Text.special_along special chain)
      rw [Text.Html.escape_of_not_special none]
      obtain same | same := plain.along none <;> rw [same]
      · exact Text.Html.escape_of_not_special none
      · rfl

end Stencil

import Stencil.Library
import Stencil.Proofs.Text.Harmless

/-!
# Values without markup in raw text

Raw texts are printed as they are, wherever they come from: an element of a list, a field of an
object, a neighbour in a loop. No function and no method makes one that has markup from values that
have none.
-/

namespace Stencil

mutual

/-- No raw text in the value has markup. -/
inductive Value.Harmless : Value → Prop where
  | nil : Value.Harmless .nil
  | bool (b : Bool) : Value.Harmless (.bool b)
  | int (n : Int64) : Value.Harmless (.int n)
  | uint (n : UInt64) : Value.Harmless (.uint n)
  | float (x : Float) : Value.Harmless (.float x)
  | text (s : String) : Value.Harmless (.text s)
  | raw {s : String} (plain : Text.Harmless s.toList) : Value.Harmless (.raw s)
  | list {items : List Value} (each : ∀ item ∈ items, Value.Harmless item) :
      Value.Harmless (.list items)
  | map {entries : List (String × Value)} (each : ∀ entry ∈ entries, Value.Harmless entry.2) :
      Value.Harmless (.map entries)
  | object (identity : Identity) {state : Object} (within : Object.Harmless state) :
      Value.Harmless (.object identity state)

inductive Object.Harmless : Object → Prop where
  | record (typeName : String) {fields : List (String × Value)}
      (each : ∀ entry ∈ fields, Value.Harmless entry.2) : Object.Harmless (.record typeName fields)
  | loop (index size : Nat) {previous next : Value} (before : Value.Harmless previous)
      (behind : Value.Harmless next) : Object.Harmless (.loop index size previous next)
  | host (className : String) : Object.Harmless (.host className)

end

/-- The value of an answer, if it has one, is harmless. -/
inductive Answer.Harmless : Answer → Prop where
  | ok {value : Value} (harmless : value.Harmless) : Answer.Harmless (.ok value)
  | error (fault : Fault) : Answer.Harmless (.error fault)

namespace Value

variable {value : Value}

theorem Harmless.getD {value? : Option Value} (harmless : ∀ value ∈ value?, value.Harmless) :
    (value?.getD Value.nil).Harmless := by
  cases value? with
  | none => exact .nil
  | some value => exact harmless value rfl

theorem Harmless.getElem? {items : List Value} (harmless : ∀ item ∈ items, item.Harmless)
    (place : Nat) : (items[place]?.getD Value.nil).Harmless :=
  .getD fun item found => harmless item (List.mem_of_getElem? found)

/-! ## Arithmetic -/

theorem harmless_ofInteger (n : Int) (unsigned : Bool) : (ofInteger n unsigned).Harmless := by
  unfold ofInteger
  split
  · exact .uint _
  · split
    · exact .int _
    · split
      · exact .uint _
      · exact .float _

theorem harmless_ofNat (n : Nat) : (ofNat n).Harmless :=
  harmless_ofInteger n false

theorem harmless_combine (exact : Int → Int → Int) (approximate : Float → Float → Float)
    (left right : Value) : (combine exact approximate left right).Harmless := by
  unfold combine
  dsimp only
  split
  · split
    · exact harmless_ofInteger _ _
    · exact .float _
  · exact .float _

theorem harmless_div (left right : Value) : Answer.Harmless (left.div right) := by
  unfold div
  dsimp only
  split
  · exact .error _
  · split
    · split
      · exact .ok (harmless_ofInteger _ _)
      · exact .ok (.float _)
    · exact .ok (.float _)

theorem harmless_rem (left right : Value) : Answer.Harmless (left.rem right) := by
  unfold rem
  dsimp only
  split
  · exact .error _
  · split
    · exact .ok (harmless_ofInteger _ _)
    · exact .ok (.float _)

theorem harmless_neg (value : Value) : value.neg.Harmless := by
  unfold neg
  split
  · split
    · exact .float _
    · exact .int _
  · exact harmless_ofInteger _ _
  · exact .float _

theorem harmless_abs (value : Value) : value.abs.Harmless := by
  unfold abs
  split
  · split
    · exact .uint _
    · exact .int _
  · exact .uint _
  · exact .float _

/-! ## Texts and collections -/

theorem harmless_mapText {change : List Char → List Char}
    (keeps : ∀ {text}, Text.Harmless text → Text.Harmless (change text))
    (harmless : value.Harmless) : (value.mapText change).Harmless := by
  cases harmless with
  | raw plain =>
      refine .raw ?_
      rw [String.toList_ofList]
      exact keeps plain
  | _ => exact .text _

theorem harmless_length (value : Value) : Answer.Harmless value.length := by
  unfold length
  split
  · exact .ok (harmless_ofNat _)
  · exact .ok (harmless_ofNat _)
  · exact .ok (harmless_ofNat _)
  · exact .ok (harmless_ofNat _)
  · exact .ok (harmless_ofNat _)
  · exact .error _

theorem harmless_reverse (harmless : value.Harmless) : Answer.Harmless value.reverse := by
  cases harmless with
  | text s => exact .ok (.text _)
  | raw plain =>
      refine .ok (.raw ?_)
      rw [String.toList_ofList]
      exact plain.reverse
  | list each => exact .ok (.list fun item inside => each item (List.mem_reverse.mp inside))
  | _ => exact .error _

theorem harmless_join (separator : String) (value : Value) :
    Answer.Harmless (value.join separator) := by
  cases value with
  | list items => exact .ok (.text _)
  | _ => exact .error _

theorem harmless_escapeHtml (value : Value) : value.escapeHtml.Harmless :=
  .raw (Text.Html.harmless_escape value.display)

theorem harmless_orElse {fallback : Value} (harmless : value.Harmless)
    (harmless' : fallback.Harmless) : (value.orElse fallback).Harmless := by
  unfold orElse
  split
  · exact harmless
  · exact harmless'

theorem harmless_splitText (s separator : String) : (splitText s separator).Harmless := by
  refine .list fun item inside => ?_
  obtain ⟨piece, _, rfl⟩ := List.mem_map.mp inside
  exact .text _

/-- The methods of texts, lists and maps hand on what is there already, or make plain texts. -/
theorem harmless_method? {name : String} {arguments : List Value} {answer : Answer}
    (harmless : value.Harmless) (found : value.method? name arguments = some answer) :
    Answer.Harmless answer := by
  revert found
  fun_cases method? value name arguments
  all_goals rintro ⟨⟩
  -- the length of a value of each of the four kinds, under its two names
  case case1 | case2 | case3 | case4 | case5 | case6 | case7 | case8 => exact harmless_length _
  case case9 | case10 => exact .ok (harmless_mapText Unicode.harmless_upper harmless)
  case case11 | case12 => exact .ok (harmless_mapText Unicode.harmless_lower harmless)
  case case13 | case14 => exact .ok (harmless_mapText Text.Harmless.trim harmless)
  case case15 | case16 => exact .ok (harmless_splitText _ _)
  case case17 | case18 => exact .ok (.bool _)
  case case19 =>
    cases harmless with
    | list each => exact .ok (.getD fun item first => each item (List.mem_of_head? first))
  case case20 =>
    cases harmless with
    | list each => exact .ok (.getD fun item last => each item (List.mem_of_getLast? last))
  case case21 | case22 => exact harmless_join _ _
  case case23 | case24 | case25 => exact harmless_reverse harmless
  case case26 =>
    refine .ok (.list fun item inside => ?_)
    obtain ⟨key, _, rfl⟩ := List.mem_map.mp inside
    exact .text _
  case case27 =>
    cases harmless with
    | map each =>
        refine .ok (.list fun item inside => ?_)
        obtain ⟨entry, within, rfl⟩ := List.mem_map.mp inside
        exact each entry within
  case case28 => exact .ok (.bool _)

end Value

/-! ## Functions -/

/-- A function that makes no raw text with markup from arguments without it. -/
def Function.Harmless (function : List Value → Answer) : Prop :=
  ∀ arguments, (∀ argument ∈ arguments, Value.Harmless argument) →
    Answer.Harmless (function arguments)

namespace Function

theorem harmless_unary {name : String} {apply : Value → Answer}
    (harmless : ∀ value, value.Harmless → Answer.Harmless (apply value)) :
    Harmless (unary name apply) := by
  intro arguments given
  unfold unary
  split
  · next value => exact harmless value (given value List.mem_cons_self)
  · exact .error _

theorem harmless_binary {name : String} {apply : Value → Value → Answer}
    (harmless : ∀ first second, first.Harmless → second.Harmless →
      Answer.Harmless (apply first second)) :
    Harmless (binary name apply) := by
  intro arguments given
  unfold binary
  split
  · next first second =>
      obtain ⟨here, others⟩ := List.forall_mem_cons.mp given
      exact harmless first second here (others second List.mem_cons_self)
  · exact .error _

theorem harmless_joinAll : Harmless joinAll := by
  intro arguments _
  unfold joinAll
  split
  · exact Value.harmless_join _ _
  · exact Value.harmless_join _ _
  · exact .error _

theorem harmless_builtin? {name : String} {function : List Value → Answer}
    (found : builtin? name = some function) : Harmless function := by
  unfold builtin? at found
  split at found
  · cases found
    exact harmless_unary fun _ harmless =>
      .ok (Value.harmless_mapText Unicode.harmless_upper harmless)
  · cases found
    exact harmless_unary fun _ harmless =>
      .ok (Value.harmless_mapText Unicode.harmless_lower harmless)
  · cases found
    exact harmless_unary fun _ harmless =>
      .ok (Value.harmless_mapText Text.Harmless.trim harmless)
  · cases found
    exact harmless_unary fun value _ => Value.harmless_length value
  · cases found
    exact harmless_unary fun _ => Value.harmless_reverse
  · cases found
    exact harmless_joinAll
  · cases found
    exact harmless_unary fun value _ => .ok (Value.harmless_abs value)
  · cases found
    exact harmless_binary fun _ _ harmless harmless' =>
      .ok (Value.harmless_orElse harmless harmless')
  · cases found
    exact harmless_unary fun value _ => .ok (Value.harmless_escapeHtml value)
  · cases found
    exact harmless_unary fun _ _ => .ok (.text _)
  · cases found

end Function

/-! ## Dictionaries -/

namespace Dictionary

variable {entries : Dictionary Value} {key : String} {value : Value}

theorem harmless_find? (harmless : ∀ entry ∈ entries, entry.2.Harmless) :
    ∀ value ∈ find? entries key, value.Harmless := by
  intro value found
  obtain ⟨before, after, rfl, _⟩ := List.lookup_eq_some_iff.mp found
  exact harmless (key, value) (List.mem_append_right before List.mem_cons_self)

theorem harmless_insert (harmless : ∀ entry ∈ entries, entry.2.Harmless)
    (harmless' : value.Harmless) : ∀ entry ∈ insert key value entries, entry.2.Harmless := by
  induction entries with
  | nil => exact List.forall_mem_singleton.mpr harmless'
  | cons first rest ih =>
      obtain ⟨here, others⟩ := List.forall_mem_cons.mp harmless
      unfold insert
      split
      · exact List.forall_mem_cons.mpr ⟨harmless', harmless⟩
      · split
        · exact List.forall_mem_cons.mpr ⟨harmless', others⟩
        · exact List.forall_mem_cons.mpr ⟨here, ih others⟩

theorem harmless_ofList {given : List (String × Value)}
    (harmless : ∀ entry ∈ given, entry.2.Harmless) :
    ∀ entry ∈ ofList given, entry.2.Harmless := by
  have fold (given : List (String × Value)) (entries : Dictionary Value)
      (harmless : ∀ entry ∈ given, entry.2.Harmless)
      (harmless' : ∀ entry ∈ entries, entry.2.Harmless) :
      ∀ entry ∈ given.foldl (fun found (key, value) => found.insert key value) entries,
        entry.2.Harmless := by
    induction given generalizing entries with
    | nil => exact harmless'
    | cons first rest ih =>
        obtain ⟨here, others⟩ := List.forall_mem_cons.mp harmless
        exact ih _ others (harmless_insert harmless' here)
  exact fold given [] harmless nofun

end Dictionary

/-! ## Libraries -/

/-- A library whose functions, fields and methods make no raw text with markup. -/
structure Library.Harmless (library : Library) : Prop where
  functions : ∀ name, ∀ function ∈ library.functions name, Function.Harmless function
  fields : ∀ className name, ∀ value ∈ (library.classes className).field name, value.Harmless
  methods : ∀ className name arguments, (∀ argument ∈ arguments, Value.Harmless argument) →
    ∀ answer ∈ (library.classes className).method name arguments, Answer.Harmless answer

section

variable {library : Library} {object : Object} {name : String} {arguments : List Value}

namespace Object

theorem harmless_loopAt {items : List Value} (harmless : ∀ item ∈ items, item.Harmless)
    (index : Nat) : (loopAt index items).Harmless := by
  refine .loop _ _ ?_ (.getElem? harmless (index + 1))
  split
  · exact .nil
  · exact .getElem? harmless (index - 1)

theorem harmless_loopField {index size : Nat} {previous next value : Value}
    (harmless : previous.Harmless) (harmless' : next.Harmless)
    (found : loopField index size previous next name = some value) : value.Harmless := by
  unfold loopField at found
  split at found
  case h_14 => cases found
  all_goals obtain rfl := Option.some.inj found
  · exact Value.harmless_ofNat _
  · exact Value.harmless_ofNat _
  · exact Value.harmless_ofNat _
  · exact Value.harmless_ofInteger _ _
  · exact Value.harmless_ofInteger _ _
  · exact .bool _
  · exact .bool _
  · exact .bool _
  · exact .bool _
  · exact harmless
  · exact harmless
  · exact harmless'
  · exact harmless'

theorem harmless_field? (sound : library.Harmless) (harmless : object.Harmless) (name : String) :
    ∀ value ∈ object.field? library.classes name, value.Harmless := by
  cases harmless with
  | record typeName each => exact Dictionary.harmless_find? each
  | loop index size before behind => exact fun _ => harmless_loopField before behind
  | host className => exact sound.fields className name

theorem harmless_lookup? (sound : library.Harmless) (harmless : object.Harmless) :
    ∀ value ∈ object.lookup? library.classes name, value.Harmless := by
  intro value found
  obtain found | ⟨_, found⟩ := Option.or_eq_some_iff.mp found
  · exact harmless_field? sound harmless name value found
  · obtain found | ⟨_, found⟩ := Option.or_eq_some_iff.mp found
    · obtain ⟨other, _, found⟩ := Option.bind_eq_some_iff.mp found
      exact harmless_field? sound harmless other value found
    · obtain ⟨other, _, found⟩ := Option.bind_eq_some_iff.mp found
      exact harmless_field? sound harmless other value found

theorem harmless_ownMethod? (sound : library.Harmless) (harmless : object.Harmless) (name : String)
    (given : ∀ argument ∈ arguments, argument.Harmless) :
    ∀ answer ∈ object.ownMethod? library.classes name arguments, Answer.Harmless answer := by
  intro answer found
  cases harmless with
  | record typeName each => cases found
  | loop index size before behind =>
      cases arguments with
      | nil =>
          obtain ⟨value, offered, rfl⟩ := Option.map_eq_some_iff.mp found
          exact .ok (harmless_loopField before behind offered)
      | cons first rest => cases found
  | host className => exact sound.methods className name arguments given answer found

theorem harmless_method? (sound : library.Harmless) (harmless : object.Harmless)
    (given : ∀ argument ∈ arguments, argument.Harmless) :
    ∀ answer ∈ object.method? library.classes name arguments, Answer.Harmless answer := by
  intro answer found
  obtain found | ⟨_, found⟩ := Option.or_eq_some_iff.mp found
  · exact harmless_ownMethod? sound harmless name given answer found
  · obtain ⟨raised, _, found⟩ := Option.bind_eq_some_iff.mp found
    exact harmless_ownMethod? sound harmless raised given answer found

end Object

namespace Library

variable {value : Value}

theorem harmless_builtins : builtins.Harmless :=
  ⟨fun _ _ => Function.harmless_builtin?, nofun, nofun⟩

theorem harmless_call (sound : library.Harmless)
    (given : ∀ argument ∈ arguments, argument.Harmless) :
    Answer.Harmless (library.call name arguments) := by
  unfold call
  split
  · next function found => exact sound.functions name function found arguments given
  · exact .error _

theorem harmless_callMethod (sound : library.Harmless) (harmless : value.Harmless)
    (given : ∀ argument ∈ arguments, argument.Harmless) :
    Answer.Harmless (library.callMethod value name arguments) := by
  unfold callMethod
  split
  · next answer found => exact Value.harmless_method? harmless found
  · dsimp only
    split
    · next answer found =>
        cases harmless with
        | object identity within => exact Object.harmless_method? sound within given answer found
        | _ => cases found
    · split
      · next function found =>
          exact sound.functions name function found _ (List.forall_mem_cons.mpr ⟨harmless, given⟩)
      · exact .error _

theorem harmless_fetchField (sound : library.Harmless) (harmless : value.Harmless) :
    Answer.Harmless (library.fetchField value name) := by
  have own (harmless : value.Harmless) :
      Answer.Harmless ((value.method? name []).getD (.ok .nil)) := by
    cases found : value.method? name [] with
    | none => exact .ok .nil
    | some answer => exact Value.harmless_method? harmless found
  cases harmless with
  | nil => exact .ok .nil
  | map each => exact .ok (.getD (Dictionary.harmless_find? each))
  | object identity within => exact .ok (.getD (Object.harmless_lookup? sound within))
  | bool b => exact own (.bool b)
  | int n => exact own (.int n)
  | uint n => exact own (.uint n)
  | float x => exact own (.float x)
  | text s => exact own (.text s)
  | raw plain => exact own (.raw plain)
  | list each => exact own (.list each)

theorem harmless_fetchElement {index : Value} (sound : library.Harmless)
    (harmless : value.Harmless) : (library.fetchElement value index).Harmless := by
  cases harmless with
  | list each =>
      refine .getD fun item found => ?_
      obtain ⟨place, _, found⟩ := Option.bind_eq_some_iff.mp found
      exact each item (List.mem_of_getElem? found)
  | map each => exact .getD (Dictionary.harmless_find? each)
  | object identity within => exact .getD (Object.harmless_lookup? sound within)
  | _ => exact .nil

end Library

end

end Stencil

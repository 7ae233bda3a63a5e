import Mathlib.Data.List.Basic
import Stencil.Text.Html
import Stencil.Text.Trim
import Stencil.Unicode.Case

/-!
# Texts without markup

The four characters that can open a tag or end an attribute value. Escaping leaves none of them, and
changing the case of a text, trimming it or turning it around brings none in.
-/

namespace Stencil

namespace Text

def markup : List Char :=
  ['<', '>', '"', '\'']

def Harmless (text : List Char) : Prop :=
  ∀ c ∈ text, c ∉ markup

instance (text : List Char) : Decidable (Harmless text) :=
  List.decidableBAll (· ∉ markup) text

namespace Harmless

variable {text rest : List Char}

theorem nil : Harmless [] :=
  nofun

theorem append (harmless : Harmless text) (harmless' : Harmless rest) : Harmless (text ++ rest) :=
  List.forall_mem_append.mpr ⟨harmless, harmless'⟩

theorem cons {c : Char} (plain : c ∉ markup) (harmless : Harmless rest) : Harmless (c :: rest) :=
  List.forall_mem_cons.mpr ⟨plain, harmless⟩

theorem of_subset (harmless : Harmless text) (subset : rest ⊆ text) : Harmless rest :=
  fun c inside => harmless c (subset inside)

theorem flatMap {change : Char → List Char} (each : ∀ c ∈ text, Harmless (change c)) :
    Harmless (text.flatMap change) := by
  intro c inside
  obtain ⟨origin, within, made⟩ := List.mem_flatMap.mp inside
  exact each origin within c made

theorem reverse (harmless : Harmless text) : Harmless text.reverse :=
  harmless.of_subset fun _ => List.mem_reverse.mp

theorem trim (harmless : Harmless text) : Harmless (Text.trim text) := by
  unfold Text.trim trimEnd trimStart
  refine of_subset harmless fun c inside => ?_
  have kept := (List.dropWhile_sublist _).subset (List.mem_reverse.mp inside)
  exact (List.dropWhile_sublist _).subset (List.mem_reverse.mp kept)

end Harmless

namespace Html

theorem harmless_escapeChar (c : Char) : Harmless (escapeChar c) := by
  unfold escapeChar entity?
  split
  · next entity found =>
      split at found
      all_goals cases found
      all_goals decide
  · next found =>
      split at found
      · cases found
      · cases found
      · cases found
      · cases found
      · cases found
      · next _ lt gt quote apostrophe =>
          refine .cons ?_ .nil
          simp only [markup, List.mem_cons, List.not_mem_nil, or_false, not_or]
          exact ⟨lt, gt, quote, apostrophe⟩

theorem harmless_escape (text : String) : Harmless (escape text).toList := by
  rw [toList_escape]
  exact .flatMap fun c _ => harmless_escapeChar c

end Html

end Text

/-! ## Case mapping -/

namespace Unicode

open Text (markup Harmless)

/-- A point is that of a character that opens a tag or ends an attribute value. -/
def IsMarkup (point : Nat) : Prop :=
  point ∈ markup.map Char.toNat

instance (point : Nat) : Decidable (IsMarkup point) :=
  inferInstanceAs (Decidable (point ∈ markup.map Char.toNat))

theorem isMarkup_of_ofNat {point : Nat} (inside : Char.ofNat point ∈ markup) : IsMarkup point := by
  by_cases valid : point.isValidChar
  · have same : (Char.ofNat point).toNat = point := by
      rw [Char.ofNat, dif_pos valid]
      rfl
    rw [← same]
    exact List.mem_map_of_mem inside
  · rw [Char.ofNat, dif_neg valid] at inside
    exact absurd inside (by decide)

/-- No character that is covered moves to one of the four. -/
def CaseRun.Clean (run : CaseRun) : Prop :=
  ∀ c ∈ markup, (c.toNat : Int) < run.first + run.distance ∨ run.last + run.distance < c.toNat

instance (run : CaseRun) : Decidable run.Clean :=
  List.decidableBAll (fun c : Char =>
    (c.toNat : Int) < run.first + run.distance ∨ run.last + run.distance < c.toNat) markup

theorem CaseRun.Clean.shifted {run : CaseRun} {point : Nat} (clean : run.Clean)
    (covered : run.covers point) : ¬IsMarkup (point + run.distance).toNat := by
  intro inside
  obtain ⟨c, listed, same⟩ := List.mem_map.mp inside
  have positive : ∀ c ∈ markup, c.toNat ≠ 0 := by simp [markup]
  have here := positive c listed
  unfold covers at covered
  simp only [Bool.and_eq_true, decide_eq_true_eq] at covered
  rcases clean c listed with below | above
  · omega
  · omega

section

variable {runs : List CaseRun} {expansions : List (Nat × List Nat)} {c : Char}

theorem harmless_mapCase (clean : ∀ run ∈ runs, run.Clean)
    (clean' : ∀ entry ∈ expansions, ∀ point ∈ entry.2, ¬IsMarkup point) (plain : c ∉ markup) :
    Harmless (mapCase runs expansions c) := by
  unfold mapCase
  split
  · next points found =>
      obtain ⟨before, after, rfl, _⟩ := List.lookup_eq_some_iff.mp found
      have listed : (c.toNat, points) ∈ before ++ (c.toNat, points) :: after :=
        List.mem_append_right _ List.mem_cons_self
      intro mapped inside
      obtain ⟨point, within, rfl⟩ := List.mem_map.mp inside
      exact mt isMarkup_of_ofNat (clean' _ listed point within)
  · refine .cons ?_ .nil
    unfold shiftPoint
    split
    · next run found =>
        have covered := List.find?_some found
        exact mt isMarkup_of_ofNat ((clean run (List.mem_of_find?_eq_some found)).shifted covered)
    · rwa [Char.ofNat_toNat]

/-- A property of the characters below a bound is one of their numbers. -/
theorem forall_ascii (holds : Char → Prop) (each : ∀ n < 128, holds (Char.ofNat n)) (c : Char)
    (small : c.toNat < 128) : holds c := by
  have here := each c.toNat small
  rwa [Char.ofNat_toNat] at here

theorem harmless_upperChar (plain : c ∉ markup) : Harmless (upperChar c) := by
  have clean : ∀ run ∈ upperRuns, run.Clean := by decide +kernel
  have clean' : ∀ entry ∈ upperExpansions, ∀ point ∈ entry.2, ¬IsMarkup point := by decide +kernel
  have ascii : ∀ n < 128, Char.ofNat n ∉ markup → Harmless [(Char.ofNat n).toUpper] := by
    decide +kernel
  unfold upperChar
  split
  · next small =>
      exact forall_ascii (fun c => c ∉ markup → Harmless [c.toUpper]) ascii c small plain
  · exact harmless_mapCase clean clean' plain

theorem harmless_lowerChar (plain : c ∉ markup) : Harmless (lowerChar c) := by
  have clean : ∀ run ∈ lowerRuns, run.Clean := by decide +kernel
  have clean' : ∀ entry ∈ lowerExpansions, ∀ point ∈ entry.2, ¬IsMarkup point := by decide +kernel
  have ascii : ∀ n < 128, Char.ofNat n ∉ markup → Harmless [(Char.ofNat n).toLower] := by
    decide +kernel
  unfold lowerChar
  split
  · next small =>
      exact forall_ascii (fun c => c ∉ markup → Harmless [c.toLower]) ascii c small plain
  · exact harmless_mapCase clean clean' plain

end

theorem harmless_upper {text : List Char} (harmless : Harmless text) : Harmless (upper text) :=
  .flatMap fun c inside => harmless_upperChar (harmless c inside)

theorem harmless_sigmaAtEnd (before after : List Char) : sigmaAtEnd before after ∉ markup := by
  unfold sigmaAtEnd
  split
  · decide
  · decide

theorem harmless_lowerAfter {before text : List Char} (harmless : Harmless text) :
    Harmless (lowerAfter before text) := by
  fun_induction lowerAfter before text with
  | case1 => exact .nil
  | case2 before rest ih =>
      obtain ⟨_, others⟩ := List.forall_mem_cons.mp harmless
      exact .cons (harmless_sigmaAtEnd before rest) (ih others)
  | case3 before first rest other ih =>
      obtain ⟨plain, others⟩ := List.forall_mem_cons.mp harmless
      exact (harmless_lowerChar plain).append (ih others)

theorem harmless_lower {text : List Char} (harmless : Harmless text) : Harmless (lower text) :=
  harmless_lowerAfter harmless

end Unicode

end Stencil

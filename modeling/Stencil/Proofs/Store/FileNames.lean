import Mathlib.Logic.Function.Basic
import Stencil.Proofs.Store.Caches
import Stencil.Proofs.Store.Confined
import Stencil.Proofs.Text.Entities

/-!
# Escaped texts and the names of files

Texts are escaped in two ways, with entities and with percent signs, and both can be read back. The
file in which a cache keeps a template has a percent-encoded name: it lies in the directory of the
cache itself, and no other template has the same file.
-/

namespace Stencil

namespace Path

/-- What a directory can hold a file under: a single component, and none that stands for the directory
itself or its parent. -/
structure IsFileName (name : String) : Prop where
  whole : '/' ∉ name.toList
  unterminated : '\x00' ∉ name.toList
  leads : name ∉ ["", ".", ".."]

theorem IsFileName.segments {name : String} (isName : IsFileName name) : segments name = [name] := by
  rw [Path.segments, cutAtSlashes_of_not_mem isName.whole, List.map_singleton, String.ofList_toList]

theorem IsFileName.relative {name : String} (isName : IsFileName name) : isAbsolute name = false := by
  refine Bool.eq_false_iff.mpr fun absolute => isName.whole ?_
  exact List.mem_of_mem_head? (isAbsolute_iff.mp absolute)

end Path

theorem Location.enter_of_isFileName {name : String} (isName : Path.IsFileName name)
    (location : Location) : location.enter name = location ++ [name] := by
  have leads := isName.leads
  simp only [List.mem_cons, List.not_mem_nil, or_false, not_or] at leads
  rw [enter, if_neg (not_or.mpr ⟨leads.1, leads.2.1⟩), if_neg leads.2.2]

/-- A file name leads from a directory to what the directory itself holds. -/
theorem Disk.resolve_join {name : String} (isName : Path.IsFileName name) (disk : Disk)
    (directory : String) :
    disk.resolve (Path.join directory name) = disk.resolve directory ++ [name] := by
  obtain ⟨origin, front, whole, leads⟩ := segments_join isName.relative disk directory
  rw [resolve, origin, whole, List.foldl_append, leads, isName.segments]
  exact Location.enter_of_isFileName isName _

namespace Cache

open Text

theorem encoded_fileName (name : String) : Percent.Encoded (fileName name).toList := by
  have extension : Percent.Encoded ".kbc".toList :=
    .plain (by decide) (.plain (by decide) (.plain (by decide) (.plain (by decide) .nil)))
  rw [fileName, String.toList_append]
  exact (Percent.encoded_encode name).append extension

theorem isFileName_fileName (name : String) : Path.IsFileName (fileName name) where
  whole := (encoded_fileName name).not_mem (by decide) (by decide)
  unterminated := (encoded_fileName name).not_mem (by decide) (by decide)
  leads := by
    -- The extension alone is longer than any of the three.
    have short : ∀ other ∈ ["", ".", ".."], other.length < 4 := by decide
    intro listed
    have bound := short _ listed
    rw [fileName, String.length_append] at bound
    exact absurd bound (Nat.not_lt.mpr (Nat.le_add_left _ _))

/-- Paths that are the same lead to the same file. -/
theorem path_inj {directory name other : String} (same : path directory name = path directory other) :
    name = other := by
  have resolved := congrArg (Disk.empty []).resolve same
  rw [path, path, Disk.resolve_join (isFileName_fileName name),
    Disk.resolve_join (isFileName_fileName other)] at resolved
  exact fileName_inj (List.singleton_inj.mp (List.append_cancel_left resolved))

end Cache

/-- Escaping can be undone and leaves nothing dangerous. A text with its entities has no markup and
no ampersand but where an entity begins, and one pass over it gives the text back. A percent-encoded
text consists of plain characters and encoded bytes, which are read back as the bytes of the text. So
different texts are escaped differently, in both ways, and wherever the directory of a cache is, the
file for a template lies in it under a single name, and is not that of another template. -/
theorem escaping_reversible :
    (∀ text : String, Text.Html.Escaped (Text.Html.escape text).toList ∧
      Text.Html.unescape (Text.Html.escape text).toList = text.toList) ∧
    (∀ text : String, Text.Percent.Encoded (Text.Percent.encode text).toList ∧
      Text.Percent.decode? (Text.Percent.encode text).toList = some text.toUTF8.data.toList) ∧
    Function.Injective Text.Html.escape ∧ Function.Injective Text.Percent.encode ∧
    ∀ directory : String, Function.Injective (Cache.path directory) ∧
      ∀ name : String, Path.IsFileName (Cache.fileName name) ∧ ∀ disk : Disk,
        disk.resolve (Cache.path directory name) =
          disk.resolve directory ++ [Cache.fileName name] := by
  refine ⟨?_, ?_, ?_, ?_, ?_⟩
  · intro text
    exact ⟨Text.Html.escaped_escape text, Text.Html.unescape_escape text⟩
  · intro text
    rw [← Text.utf8_eq_toUTF8]
    exact ⟨Text.Percent.encoded_encode text, Text.Percent.decode?_encode text⟩
  · intro text other same
    exact Text.Html.escape_inj same
  · intro text other same
    exact Text.Percent.encode_inj same
  · intro directory
    constructor
    · intro name other same
      exact Cache.path_inj same
    · intro name
      have isName := Cache.isFileName_fileName name
      exact ⟨isName, fun disk => Disk.resolve_join isName disk directory⟩

end Stencil

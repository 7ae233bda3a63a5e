/-!
# Paths

A path is a text of segments with slashes between them. A leading slash makes it absolute.
-/

namespace Stencil.Path

/-- The parts of a text between slashes; two slashes in a row have an empty part between them. -/
def cutAtSlashes : List Char → List (List Char)
  | [] => [[]]
  | c :: rest =>
      if c = '/' then [] :: cutAtSlashes rest
      else
        match cutAtSlashes rest with
        | [] => [[c]]
        | first :: others => (c :: first) :: others

theorem cutAtSlashes_ne_nil (path : List Char) : cutAtSlashes path ≠ [] := by
  cases path with
  | nil => simp [cutAtSlashes]
  | cons c rest =>
      simp only [cutAtSlashes]
      split
      · simp
      · split <;> simp

theorem cutAtSlashes_append (first second : List Char) :
    cutAtSlashes (first ++ '/' :: second) = cutAtSlashes first ++ cutAtSlashes second := by
  induction first with
  | nil => simp [cutAtSlashes]
  | cons c rest ih =>
      simp only [List.cons_append, cutAtSlashes, ih]
      split
      · rfl
      · cases parts : cutAtSlashes rest with
        | nil => exact absurd parts (cutAtSlashes_ne_nil rest)
        | cons part parts => rfl

def segments (path : String) : List String :=
  (cutAtSlashes path.toList).map .ofList

def isAbsolute (path : String) : Bool :=
  path.toList.head? == some '/'

/-- Whether some segment of a path leads to the parent of a directory. -/
def climbs (path : String) : Bool :=
  (segments path).contains ".."

/-- A path as seen from a directory; an absolute one stays as it is. -/
def join (directory path : String) : String :=
  if isAbsolute path || directory.isEmpty then path
  else if directory.toList.getLast? = some '/' then directory ++ path
  else directory ++ "/" ++ path

/-- The path without its last segment: the directory of a file, empty for a bare name. -/
def parent (path : String) : String :=
  "/".intercalate (segments path).dropLast

end Stencil.Path

import Stencil.Code.Basic
import Stencil.Files.Path
import Stencil.Text.Bytes

/-!
# Disks

Files in directories, without links. A location is the list of names on the way from the root. A
path is followed from the root or from the working directory, segment by segment, and every
segment, empty ones included, is looked up in a directory.
-/

namespace Stencil

structure File where
  content : List UInt8
  modified : Time
deriving Repr, DecidableEq

abbrev Location := List String

structure Disk where
  /-- The working directory, where relative paths start. -/
  here : Location
  directories : List Location
  files : List (Location × File)
deriving Repr, DecidableEq

inductive ReadError where
  | missing
  | notDirectory
  | isDirectory
  | notText
deriving Repr, DecidableEq

def ReadError.message : ReadError → String
  | missing => "No such file or directory (os error 2)"
  | notDirectory => "Not a directory (os error 20)"
  | isDirectory => "Is a directory (os error 21)"
  | notText => "stream did not contain valid UTF-8"

namespace Location

/-- Where a segment leads to from a directory. -/
def enter (location : Location) (segment : String) : Location :=
  if segment = "" ∨ segment = "." then location
  else if segment = ".." then location.dropLast
  else location ++ [segment]

/-- The locations in which segments are looked up one after the other. -/
def visits (location : Location) : List String → List Location
  | [] => []
  | segment :: rest => location :: visits (location.enter segment) rest

end Location

namespace Disk

/-- Has no files, and only those directories that lead to the working directory. -/
def empty (here : Location) : Disk where
  here := here
  directories := here :: Location.visits [] here
  files := []

def file? (disk : Disk) (location : Location) : Option File :=
  disk.files.lookup location

/-- Follows segments from a location. -/
def follow (disk : Disk) (location : Location) : List String → Except ReadError Location
  | [] => .ok location
  | segment :: rest =>
      if location ∈ disk.directories then follow disk (Location.enter location segment) rest
      else if (disk.file? location).isSome then .error .notDirectory
      else .error .missing

/-- Where a path starts. -/
def origin (disk : Disk) (path : String) : Location :=
  if Path.isAbsolute path then [] else disk.here

/-- Where a path leads to; the empty path leads nowhere. -/
def locate (disk : Disk) (path : String) : Except ReadError Location :=
  if path.isEmpty then .error .missing
  else disk.follow (disk.origin path) (Path.segments path)

def read (disk : Disk) (path : String) : Except ReadError File := do
  let location ← disk.locate path
  match disk.file? location with
  | some file => return file
  | none => throw (if location ∈ disk.directories then .isDirectory else .missing)

def isFile (disk : Disk) (path : String) : Bool :=
  (disk.read path).isOk

/-- The text of a file, and when it was last changed. -/
def readText (disk : Disk) (path : String) : Except ReadError (String × Time) := do
  let file ← disk.read path
  match Text.ofUtf8? file.content with
  | some text => return (text, file.modified)
  | none => throw .notText

/-- Puts a file at a path, with the directories on the way to it. -/
def write (disk : Disk) (path : String) (file : File) : Disk :=
  let segments := Path.segments path
  let location := segments.foldl Location.enter (disk.origin path)
  { disk with
    directories := disk.directories ++ Location.visits (disk.origin path) segments
    files := (location, file) :: disk.files.filter (·.1 ≠ location) }

/-- The disk without the file at a path, if there is one. -/
def remove? (disk : Disk) (path : String) : Option Disk :=
  match disk.locate path with
  | .error _ => none
  | .ok location =>
      if (disk.file? location).isSome then
        some { disk with files := disk.files.filter (·.1 ≠ location) }
      else none

end Disk

end Stencil

import Stencil.Dictionary
import Stencil.Failure
import Stencil.Files.Disk

/-!
# Sources

Where the texts of templates are found: in memory under their names, or as files in one of several
directories. The name of a template that is a file is a path that cannot leave the directory.
-/

namespace Stencil

/-- The text of a template, and when it was last changed. -/
structure Source where
  content : String
  modified : Time
deriving Repr, DecidableEq

inductive Sources where
  | memory (templates : Dictionary Source)
  | files (directories : List String) (disk : Disk)

namespace Sources

def inMemory (templates : Dictionary Source) (name : String) : Except LoadError Source :=
  match templates.find? name with
  | some source => .ok source
  | none => .error (.notFound name)

/-- The path of a template, under the first directory in which its name is that of a file. -/
def locate (directories : List String) (disk : Disk) (name : String) : Except LoadError String :=
  if Path.isAbsolute name then .error (.absolutePath name)
  else if Path.climbs name then .error (.parentDirectory name)
  else
    match (directories.map (Path.join · name)).find? disk.isFile with
    | some path => .ok path
    | none => .error (.notFound name)

def onDisk (directories : List String) (disk : Disk) (name : String) : Except LoadError Source :=
  match locate directories disk name with
  | .error error => .error error
  | .ok path =>
      match disk.readText path with
      | .ok (content, modified) => .ok ⟨content, modified⟩
      | .error error => .error (.unreadable name error.message)

def fetch : Sources → String → Except LoadError Source
  | memory templates, name => inMemory templates name
  | files directories disk, name => onDisk directories disk name

end Sources

end Stencil

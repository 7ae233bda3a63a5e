import Stencil.Code.Wire
import Stencil.Dictionary
import Stencil.Failure
import Stencil.Files.Path
import Stencil.Text.Percent

/-!
# Caches

Compiled templates are kept under their names, in memory or as the files of a folder. A file that
cannot be read as code counts as absent, and is removed.
-/

namespace Stencil

namespace Code

/-- Code from before the epoch has no form as bytes. -/
def toBytes (code : Code) : Except LoadError Wire.Bytes :=
  match Wire.write? code with
  | some bytes => .ok bytes
  | none => .error (.notEncodable code.name)

def ofBytes (name : String) (bytes : Wire.Bytes) : Except LoadError Code :=
  match Wire.ofBytes? bytes with
  | some code => .ok code
  | none => .error (.notDecodable name)

end Code

inductive Cache where
  | memory (entries : Dictionary Code)
  /-- The bytes of the files by their names. -/
  | files (folder : Dictionary (List UInt8))

namespace Cache

/-- The name of the file for a template. -/
def fileName (name : String) : String :=
  Text.Percent.encode name ++ ".kbc"

/-- The path of the file for a template, where the folder is that of a directory. -/
def path (directory name : String) : String :=
  Path.join directory (fileName name)

def get (cache : Cache) (name : String) : Option Code × Cache :=
  match cache with
  | memory entries => (entries.find? name, cache)
  | files folder =>
      match folder.find? (fileName name) with
      | none => (none, cache)
      | some bytes =>
          match Code.ofBytes name bytes with
          | .ok code => (some code, cache)
          | .error _ => (none, files (folder.erase (fileName name)))

def set (cache : Cache) (name : String) (code : Code) : Except LoadError Cache :=
  match cache with
  | memory entries => .ok (memory (entries.insert name code))
  | files folder =>
      match code.toBytes with
      | .ok bytes => .ok (files (folder.insert (fileName name) bytes))
      | .error error => .error error

def delete : Cache → String → Cache
  | memory entries, name => memory (entries.erase name)
  | files folder, name => files (folder.erase (fileName name))

end Cache

end Stencil

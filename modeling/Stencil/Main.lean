import Stencil.CommandLine

/-!
# The program

Files are read when the command line asks for them: as long as a path at which it found no file
can be read, it is answered once more with that file.
-/

namespace Stencil.Program

/-- The names on the way to the working directory. -/
def workingDirectory : IO Location := do
  let path ← IO.currentDir
  return (Path.segments path.toString).filter (!·.isEmpty)

/-- Adds the file at a path, if it can be read and is not there yet. -/
def supply (disk : Disk) (path : String) : IO (Option Disk) := do
  if disk.isFile path then return none
  try
    let content ← IO.FS.readBinFile path
    let fuller := disk.write path ⟨content.toList, ⟨0⟩⟩
    return if fuller.isFile path then some fuller else none
  catch _ => return none

/-- Adds the first of some files that can be added. -/
def supplyFirst (disk : Disk) : List String → IO (Option Disk)
  | [] => return none
  | path :: rest => do
      match ← supply disk path with
      | some disk => return some disk
      | none => supplyFirst disk rest

partial def settle (arguments : List String) (disk : Disk) : IO CommandLine.Response := do
  let response := CommandLine.respond arguments disk
  match ← supplyFirst disk response.missing with
  | some disk => settle arguments disk
  | none => return response

end Stencil.Program

def main (arguments : List String) : IO UInt32 := do
  let here ← Stencil.Program.workingDirectory
  let response ← Stencil.Program.settle arguments (.empty here)
  IO.print response.output
  IO.eprint response.complaint
  return .ofNat response.status

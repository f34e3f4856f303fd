import SchemaDrift.CommandLine.Run

namespace SchemaDrift

/-- Takes what lies at a path over into a tree; a path that cannot be read leads nowhere. -/
def FileTree.capture (files : FileTree) (path : Text) : IO FileTree := do
  try
    let bytes ← IO.FS.readBinFile (String.ofList path)
    return (files.install path (.file 0 bytes.toList false)).toOption.getD files
  catch
    | .inappropriateType .. => return (files.install path .directory).toOption.getD files
    | _ => return files

/-- A host of those files that has no means to run programs, and no server. -/
def FileTree.still (files : FileTree) (colours : Bool) : Host :=
  { files, execute := fun _ _ _ => .error .notImplemented, colours }

/-- Writes the files of a tree that the other tree does not hold in the same state. -/
def FileTree.release (files before : FileTree) : IO Unit := do
  for (l, e) in files.entries.reverse do
    if before.entry? l ≠ some e then
      let path := String.ofList ('/' :: List.intercalate "/" l)
      match e with
      | .directory => IO.FS.createDirAll path
      | .file _ bytes _ => IO.FS.writeBinFile path ⟨bytes.toArray⟩
      | _ => pure ()

end SchemaDrift

open SchemaDrift

def main (arguments : List String) : IO UInt32 := do
  let arguments := arguments.map String.toList
  let home := ((← IO.currentDir).toString.toList.splitOn '/').filter (· ≠ [])
  let paths := match Request.ofArguments arguments with
    | .ok r => r.schemas ++ r.config.toList
    | .error _ => []
  let files ← paths.foldlM FileTree.capture (FileTree.empty home)
  let colours := ((← IO.getEnv "NO_COLOR").getD "").isEmpty
  let outcome := CommandLine.run .brief (files.still colours) arguments
  outcome.files.release files
  IO.print (String.ofList outcome.output)
  IO.eprint (String.ofList outcome.errors)
  return outcome.code.toUInt32

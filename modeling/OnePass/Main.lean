import OnePass.CommandLine.Program

/-!
# Command line

Reads the files that the arguments name, runs the program on them, prints what it prints and writes
the files that it has changed.
-/

namespace OnePass

def absolutePath (place : List Text) : String := String.ofList ('/' :: Text.join ['/'] place)

def nodeOnDisk? (place : List Text) : IO (Option Node) := do
  let path := (← IO.currentDir) / absolutePath place
  if ← path.isDir then return some .directory
  try
    return some (.file (← IO.FS.readBinFile path).toList)
  catch _ => return none

/-- Adds to a tree all that is found on disk on the way along a path. -/
def loadPath (tree : FileTree) (path : Text) : IO FileTree := do
  let mut tree := tree
  let mut place := tree.origin path
  for name in FileTree.names path do
    if name = ['.', '.'] then place := place.dropLast
    else if name ≠ ['.'] then
      place := place ++ [name]
      match ← nodeOnDisk? place with
      | some (.file content) => tree := tree.addFile place content
      | some .directory => tree := tree.addDirectory place
      | none => break
  return tree

/-- The files on disk, as far as the arguments name them. -/
def loadFiles (arguments : List Text) : IO FileTree := do
  let here := FileTree.names (← IO.currentDir).toString.toList
  let mut tree := FileTree.addDirectory { workingDirectory := here } here
  if let .ok a := Arguments.parse arguments then
    for path in a.operands ++ a.given.map Given.value do
      tree ← loadPath tree path
  return tree

end OnePass

open OnePass in
/-- Runs the program on the files of the system. -/
def main (arguments : List String) : IO UInt32 := do
  let arguments := arguments.map String.toList
  let refuse (message : Text) : IO UInt32 := do
    IO.eprintln (String.ofList message)
    return 1
  let maxLineLength := (← IO.getEnv "LINASM_MAX_LINE_LENGTH").map String.toList
  let encoding := (← IO.getEnv "LINASM_ENCODING").map String.toList
  match Environment.ofVariables maxLineLength encoding with
  | .error e => refuse e.message
  | .ok env =>
    let files ← loadFiles arguments
    match Program.run arguments env files with
    | .error e => refuse e.message
    | .ok effect =>
      IO.print (String.ofList effect.stdout)
      IO.eprint (String.ofList effect.stderr)
      for (place, content) in files.changes effect.files do
        IO.FS.writeBinFile (absolutePath place) (ByteArray.mk content.toArray)
      return UInt32.ofNat effect.exitCode

import RuntimeProfiles.Command.Invocation

/-!
# The program

The outer layer: it captures the files that commands can see, runs the program on them, and carries
out what that run added. Everything else is decided by `Invocation.run`.
-/

namespace RuntimeProfiles.Program

/-- A change of the captured tree; one that its rules do not allow is left out. -/
def keep (tree : FileTree) (changed : Except FileFault FileTree) : FileTree :=
  changed.toOption.getD tree

/-- Captures what stands under a name in a directory: a directory, or a file with its bytes. -/
def capture (tree : FileTree) (directory : Path) (name : String) : IO FileTree := do
  let place := (← IO.FS.realPath (tree.display directory)) / name
  let path := directory ++ [name]
  if ← place.isDir then return keep tree (tree.ensureDirectory path)
  else if ← place.pathExists then
    return keep tree (tree.writeFile path (← IO.FS.readBinFile place))
  else return tree

/-- Captures the manifest and the profiles in a directory. -/
def captureProject (tree : FileTree) (directory : Path) : IO FileTree := do
  let tree ← capture tree directory Manifest.fileName
  let mut tree ← capture tree directory "profiles"
  let profiles := Project.profilesDirectory directory
  if tree.isDirectory profiles then
    for entry in ← (← IO.FS.realPath (tree.display profiles)).readDir do
      tree ← capture tree profiles entry.fileName
  return tree

/-- Captures the way from a directory to another one below it, with the projects on the way. -/
def captureWay (tree : FileTree) (above : Path) : List String → IO FileTree
  | [] => captureProject tree above
  | name :: names => do
    let tree ← captureProject tree above
    captureWay (keep tree (tree.ensureDirectory (above ++ [name]))) (above ++ [name]) names

/-- Carries out what a command has added to a tree. -/
def carryOut (before after : FileTree) : IO Unit :=
  for (path, entry) in after.entries do
    unless before.contains path do
      match entry with
      | .directory => IO.FS.createDir (after.display path)
      | .file bytes => IO.FS.writeBinFile (after.display path) bytes

end RuntimeProfiles.Program

open RuntimeProfiles in
/-- Runs the program in the current directory. -/
def main (arguments : List String) : IO UInt32 := do
  let directory := (← IO.currentDir).components.filter (· ≠ "")
  let tree ← Program.captureWay (.empty "") [] directory
  let invocation := Invocation.run tree directory arguments
  Program.carryOut tree invocation.tree
  IO.print invocation.stdout
  IO.eprint invocation.stderr
  return .ofNat invocation.status

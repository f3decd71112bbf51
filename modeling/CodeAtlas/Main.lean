import CodeAtlas.Command.Run
import CodeAtlas.Workspace.Ignore

/-!
# The program

The outer layer: it takes a snapshot of the files below the root, lets `Command.run` work on it, and
prints what comes out.
-/

namespace CodeAtlas.Snapshot

/-- The bytes of a file as text, unless they are no UTF-8. -/
def textOf (bytes : ByteArray) : Option Text :=
  (String.fromUTF8? bytes).map String.toList

/-- The absolute path at the end of a symbolic link. A link to nothing leads to a name that no file
has. -/
def linkTarget (link : String) : IO Path := do
  try return ⟨(← IO.FS.realPath link).toString⟩
  catch _ => return ⟨"\x00"⟩

/-- Put what is below a directory into a tree. A place outside the directory that a link leads to is
kept as an empty file. -/
partial def ofDirectory (tree : FileTree) (directory : String) : IO FileTree := do
  let mut tree := tree.insert (Path.names ⟨directory⟩) (.directory [])
  for entry in ← (← IO.FS.realPath directory).readDir do
    let path := directory ++ "/" ++ entry.fileName
    let names := Path.names ⟨path⟩
    match (← entry.path.symlinkMetadata).type with
    | .dir => tree ← ofDirectory tree path
    | .file => tree := tree.insert names (.file (textOf (← IO.FS.readBinFile path)))
    | .symlink =>
      let target ← linkTarget path
      tree := tree.insert names (.link target)
      if (tree.at? target.names).isNone && target.isAbsolute then
        tree := tree.insert target.names (.file none)
    | .other => pure ()
  return tree

/-- The files that a command line is about. -/
def ofArguments (current : Path) (args : List String) : IO FileTree := do
  let root := match Invocation.parse? args with
    | some (.run (some root) _ _) => current.join root
    | _ => current
  let empty := FileTree.insert (.directory []) current.names (.directory [])
  try
    let real := (← IO.FS.realPath root.text).toString
    let tree ← ofDirectory empty real
    if real = root.text || root.normalize.names = Path.names ⟨real⟩ then return tree
    else return tree.insert root.normalize.names (.link ⟨real⟩)
  catch _ => return empty

end CodeAtlas.Snapshot

open CodeAtlas in
/-- Run the program and give its exit code. -/
def main (args : List String) : IO UInt32 := do
  let current : Path := ⟨(← IO.currentDir).toString⟩
  let setting ← IO.getEnv "WAYFINDER_SCAN_TIMEOUT_MS"
  let tree ← Snapshot.ofArguments current args
  let outcome := Command.run tree.storage current setting args
  (← IO.getStdout).putStr outcome.stdout
  (← IO.getStderr).putStr outcome.stderr
  return outcome.exit.toUInt32

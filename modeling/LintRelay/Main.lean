import LintRelay.CommandLine.Run

/-!
# The program

Reads what a run looks at from the disk, runs the command on it, and carries out the result. Only
files are read: no process is started, so that every analyzer counts as not installed.
-/

namespace LintRelay.Main

/-- The content of a file with the given bytes. -/
def contentOf (bytes : ByteArray) : Content :=
  match String.fromUTF8? bytes with
  | some text => .text text
  | none => .bytes

/-- The tree with what is on disk at the given paths. -/
def snapshot (directory : String) (paths : List String) : IO Tree := do
  let here ← IO.currentDir
  paths.foldlM (fun (tree : Tree) (path : String) => do
    if ← (here / path).isDir then return tree.add path .directory
    else if ← (here / path).pathExists then
      let content ← try contentOf <$> IO.FS.readBinFile (here / path) catch _ => pure .locked
      return tree.add path (.file content none)
    else return tree) (Tree.empty.add directory .directory)

/-- Puts a file in the place of the one that is there, if one is. -/
def replace (path text : String) : IO Unit := do
  if ← (← IO.currentDir) / path |>.pathExists then IO.FS.removeFile path
  IO.FS.writeFile path text

/-- Writes the files that a run has changed. -/
def store (before after : Tree) (paths : List String) : IO Unit :=
  paths.forM fun path =>
    match before.readText "/" path, after.readText "/" path with
    | .ok old, .ok new => if old = new then pure () else replace path new
    | .error _, .ok new => replace path new
    | _, .error _ => pure ()

end LintRelay.Main

open LintRelay in
/-- Runs the program. -/
def main (arguments : List String) : IO UInt32 := do
  let directory := (← IO.currentDir).toString
  let paths := CommandLine.consulted directory arguments
  let tree ← Main.snapshot directory paths
  let host : Host := ⟨tree, directory, none, none, ∅⟩
  let result := CommandLine.run host arguments
  Main.store tree result.tree paths
  for entry in result.log do
    IO.eprintln (entry.level.name ++ " " ++ entry.text)
  IO.eprint result.failureText
  IO.print result.stdout
  return result.status.toUInt32

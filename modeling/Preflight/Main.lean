import Preflight.CommandLine.Program

/-!
The program `pop-tx`: gathers the variables and the files that a command line asks for, and prints
what the run prints. No node is reached, and no domain beyond ASCII is known.
-/

namespace Preflight.CommandLine

-- The entries for what is found at a path from the working directory. A link leads to the real place
-- of what stands behind it.
def observe (base : List Files.Path) (path : Files.Path) :
    IO (List (List Files.Path × Files.Node)) := do
  let place := (← IO.currentDir) / path.shown
  if !(← place.pathExists) then return []
  let real := Files.Path.ofString (← IO.FS.realPath place).toString
  let node ←
    if ← place.isDir then
      pure (if ← (place / ".").pathExists then Files.Node.directory else .closedDirectory)
    else
      try pure (Files.Node.file (← IO.FS.readBinFile place).toList)
      catch _ => pure .closedFile
  let found := (real.namesFrom [], node)
  match (← place.symlinkMetadata).type with
  | .symlink => return [(path.namesFrom base, .link real), found]
  | _ => return [found]

-- the tree of what is found at some paths and their fronts
def gatherTree (paths : List Files.Path) : IO Files.Tree := do
  let base := Files.Path.namesFrom [] (Files.Path.ofString (← IO.currentDir).toString)
  let entries ← (paths.flatMap Files.Path.fronts).mapM (observe base)
  return { base, entries := entries.flatten }

def gatherVariables : IO Environment.Variables :=
  variableNames.filterMapM fun name => do
    return (← IO.getEnv name).map fun value => (name, Text.Utf8.bytes value)

-- the number of checks that a configured wait cannot exceed
def patience : Nat := Nat.pow 2 32

end Preflight.CommandLine

open Preflight.CommandLine

def main (args : List String) : IO UInt32 :=
  letI : Preflight.Url.Domains := .plain
  do
    let words := args.map Preflight.Text.Utf8.bytes
    let paths := match Command.read words with
      | .ok command => command.paths
      | .error _ => []
    let env ← gatherVariables
    let tree ← gatherTree paths
    match run .unreachable () patience env tree words with
    | some exit =>
      IO.print exit.stdout
      IO.eprint exit.stderr
      return exit.code.toUInt32
    | none => return 1

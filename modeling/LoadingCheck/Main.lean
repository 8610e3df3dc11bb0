import LoadingCheck.CommandLine.Run

/-!
# The command

The outer layer of the command. It starts no other program: a run leaves its script in a file, and reads
from the standard input what the program that runs scripts printed for it. So the command is used twice,
once for the script and once more behind a pipe for the report.

## Main definitions

* `LoadingCheck.Command.machine` — the machine as the command meets it.
* `LoadingCheck.Command.leave` — puts in place what a run leaves behind.
* `main` — the command.
-/

namespace LoadingCheck.Command

/-- The file that the script is left in. -/
def scriptFile : String := "verify_ux.js"

/-- The machine as the command meets it, with what a script printed. No directory is known to be there,
so all that are needed are made; making one that is there already changes nothing. -/
def machine (cwd : String) (output : List UInt8) : Machine where
  cwd := some (.ofString cwd)
  tree := { directories := [], files := [] }
  node := some ⟨.code 0, .code 0, output, []⟩
  scriptPath := .ofString scriptFile
  elapsed := 0

/-- Puts the directories and the script of a run in place, and prints what it prints. -/
def leave (ending : CommandLine.Ending) : IO UInt32 := do
  for names in ending.tree.directories do
    IO.FS.createDirAll (Path.display ⟨Path.ofPieces ([] :: names)⟩)
  if let some script := ending.script then
    IO.FS.writeFile scriptFile script
  IO.print ending.stdout
  IO.eprint ending.stderr
  return UInt32.ofNat ending.exit

end LoadingCheck.Command

open LoadingCheck in
/-- Runs the command in the current directory. -/
def main (words : List String) : IO UInt32 := do
  let cwd ← IO.currentDir
  let filter ← IO.getEnv "RUST_LOG"
  let stdin ← IO.getStdin
  let output ← stdin.readBinToEnd
  Command.leave (CommandLine.run words filter (Command.machine cwd.toString output.toList))

import Rulebook.CommandLine.Lint
import Rulebook.FileTree.Manifest

/-!
# The program

Reads the manifest of a file tree from the standard input, carries out the command that the
arguments give on that tree, and exits with its code. The current folder of the tree is empty but
for what the manifest puts into it, and the bundled rules are at their place. The system refuses
nothing that the tree does not, settings are read by the standard reader, and the only emoji is the
cross mark.
-/

namespace Rulebook.Program

attribute [local instance] Text.crossMark

/-- What the program leaves behind. Where the manifest or the settings cannot be used, the exit code
is 1 and the reason is written. -/
def outputFor (args : List String) (manifest : String) : CommandLine.Output :=
  match Bundled.bareTree.ofManifest manifest with
  | .error line =>
    { exitCode := 1, stderr := "Error: Not an entry: " ++ Text.quote (String.ofList line) ++ "\n" }
  | .ok t =>
    match CommandLine.run t args with
    | .ok output => output
    | .error b =>
      { exitCode := 1, stdout := b.stdout, stderr := "Error: " ++ b.message ++ "\n" }

/-- Reads what is left of an input. -/
partial def readAll (input : IO.FS.Stream) (text : String) : IO String := do
  let line ← input.getLine
  if line.isEmpty then return text else readAll input (text ++ line)

end Rulebook.Program

/-- Runs the program. -/
def main (args : List String) : IO UInt32 := do
  let manifest ← Rulebook.Program.readAll (← IO.getStdin) ""
  let output := Rulebook.Program.outputFor args manifest
  (← IO.getStdout).putStr output.stdout
  (← IO.getStderr).putStr output.stderr
  return UInt32.ofNat output.exitCode

import ScriptMachine.CommandLine

/-! # The program

Runs a command on the host that the program itself runs on.
-/

namespace ScriptMachine

instance : Host IO where
  value? wanted := IO.getEnv wanted.name
  now := IO.monoNanosNow
  print := IO.print
  write piece := do
    let terminal := { kind := ← IO.getEnv "TERM", noColor := ← IO.getEnv "NO_COLOR" }
    IO.eprint (Log.Rendering.standard.piece terminal piece)

end ScriptMachine

/-- Run the command, and end with its exit code. -/
def main (arguments : List String) : IO UInt32 := do
  let (ended, _) ← (ScriptMachine.CommandLine.command arguments).run.run {}
  return UInt32.ofNat (ScriptMachine.CommandLine.exitCode ended)

import SetQuery.Cli.Run

/-!
# The program

All files that a command looks at are read first; then the command runs on what was found.
-/

open SetQuery.Cli

/-- What is found at a path. -/
def lookAt (path : String) : IO PathState := do
  try
    let bytes ← IO.FS.readBinFile path
    return match String.fromUTF8? bytes with
      | some text => .text text
      | none => .notText
  catch
    | .noFileOrDirectory .. => return .missing
    | .inappropriateType .. => return .directory
    | e => return .absent e.toString

/-- Runs the command line. -/
def main (args : List String) : IO UInt32 := do
  let capabilitiesFile ← IO.getEnv "SETWISE_CAPABILITIES"
  let outcome ← match readCommandLine args capabilitiesFile with
    | .error stop => pure stop.outcome
    | .ok i => do
      let found ← i.paths.mapM fun path => do return (path, ← lookAt path)
      pure (i.run fun path => (found.lookup path).getD .missing)
  IO.print (Outcome.textOf outcome.output)
  IO.eprint (Outcome.textOf outcome.errors)
  return UInt32.ofNat outcome.code

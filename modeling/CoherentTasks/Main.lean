import CoherentTasks.CommandLine.Program

/-!
# Entry point

Reads the arguments, the environment and the scenario file, and prints what the
program answers.
-/

open CoherentTasks CoherentTasks.CommandLine

def readContents (path : String) : IO FileContents := do
  try
    return .ok (← IO.FS.readBinFile path)
  catch fault =>
    match fault with
    | .inappropriateType .. => return .error .isDirectory
    | _ => return .error .missing

def main (arguments : List String) : IO UInt32 := do
  let contents ← readContents <|
    match Arguments.parse arguments with
    | .ok parsed => parsed.config
    | .error _ => standardConfig
  let ending := program arguments (← IO.getEnv "DAGRT_LOG") fun _ => contents
  IO.print ending.output
  match ending.complaint with
  | none => pure ()
  | some complaint => IO.eprintln ("dagrt error: " ++ complaint)
  return UInt32.ofNat ending.exitCode

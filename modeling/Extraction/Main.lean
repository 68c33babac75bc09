import Extraction.Command

/-!
# The command line

Reads the files that a command names and writes the answer.
-/

open Extraction

/-- What a file contains, if it can be read. -/
def contentOf (path : String) : IO (Except Path.Fault String) := do
  try
    return .ok (← IO.FS.readFile path)
  catch error =>
    -- Where there is a folder it is its type that is wrong.
    match error with
    | .inappropriateType .. => return .error .folder
    | _ => return .error .missing

/-- The given files as far as they can be read. -/
def filesAt (paths : List String) : IO Files := do
  let contents ← paths.mapM fun path => do
    return (path, ← contentOf path)
  return ⟨fun path => (contents.lookup path).getD (.error .missing)⟩

/-- Answers the command in the arguments. -/
def main (arguments : List String) : IO UInt32 := do
  let surrounding ← IO.getEnv "MUNGE_CONFIG"
  let answer ← match Command.ofArguments? arguments with
    | some command => do
      let files ← filesAt (command.paths surrounding)
      pure (Command.answer files surrounding command)
    | none => pure Command.Answer.usage
  (← IO.getStdout).putStr answer.output
  (← IO.getStderr).putStr answer.errors
  if let some abort := answer.abort then
    (← IO.getStderr).putStrLn abort.message
  return UInt32.ofNat answer.code

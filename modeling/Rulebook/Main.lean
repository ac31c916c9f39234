import Rulebook.Invocation

/-
  The program: it reads its arguments and a source, and prints
  what a command answers.  It ends with 0, with 1 after an
  error, and with 2 after a run with failing tests.
-/

namespace Rulebook

/- All lines of a stream. -/
partial def readAll
    (stream : IO.FS.Stream)
    (text : String) : IO String := do
  let line ← stream.getLine
  if line.isEmpty then pure text
  else readAll stream (text ++ line)

/- The source in a file, or from the standard input. -/
def readSource
    (file : Option String) :
    IO (Except CommandError String) := do
  try
    match file with
    | some path => return .ok (← IO.FS.readFile path)
    | none =>
        let input ← IO.getStdin
        if ← input.isTty then return .error .noInput
        return .ok (← readAll input "")
  catch e =>
    return .error (.io e.toString)

/- Carry out a command and print its output or its error. -/
def runCommand
    (command : Command)
    (file : Option String)
    (format : Format) : IO UInt32 := do
  let executed :=
    (← readSource file).bind (command.execute format)
  match executed with
  | .ok execution =>
      IO.print execution.output
      return if execution.success then 0 else 2
  | .error e =>
      IO.eprintln e.message
      return 1

end Rulebook

open Rulebook in
/- The entry of the program. -/
def main (arguments : List String) : IO UInt32 := do
  match Invocation.ofArguments arguments with
  | .ok .help =>
      IO.print usage
      return 0
  | .ok .sample =>
      IO.print sampleProgram
      return 0
  | .ok (.command command file format) =>
      runCommand command file format
  | .error text =>
      IO.eprintln ("error: " ++ text ++ "\n\n" ++ usage)
      return 2

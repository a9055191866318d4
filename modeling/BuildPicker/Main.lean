import BuildPicker.CommandLine.Help
import BuildPicker.CommandLine.Run

/-!
The program: the command line over the files on disk.
-/

namespace BuildPicker

open BuildPicker.CommandLine

/-- What the system says of a failed access. -/
def accessMessage : IO.Error → String
  | .noFileOrDirectory _ _ _ => noSuchFile
  | .inappropriateType _ code _ => if code = 21 then isADirectory else notADirectory
  | e => toString e

def Files.onDisk : Files IO where
  has path := do
    match ← (IO.FS.readFile path).toBaseIO with
    | .ok _ => return true
    | .error e => return accessMessage e == isADirectory
  read path := do
    match ← (IO.FS.readFile path).toBaseIO with
    | .ok content => return .ok content
    | .error e => return .error (accessMessage e)

/-- Runs the program and gives its exit status. -/
def runProgram (arguments : List String) : IO UInt32 := do
  let environment ← IO.getEnv Settings.environmentVariable
  match Command.ofArguments arguments environment with
  | .error e =>
    IO.eprintln ("error: " ++ e.message ++ "\n\n" ++ usageLine)
    return 2
  | .ok .help =>
    IO.print (helpText environment)
    return 0
  | .ok (.select arguments) =>
    let report ← arguments.run Files.onDisk environment
    report.console.forM fun line => IO.eprintln line
    IO.print report.ending.output
    IO.eprint report.ending.errorOutput
    return report.ending.status

end BuildPicker

def main (arguments : List String) : IO UInt32 :=
  BuildPicker.runProgram arguments

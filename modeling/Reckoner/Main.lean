import Reckoner.CommandLine.Run

/-!
# The program

Reads the settings file that the command line asks for, runs the command, and prints its report.
-/

namespace Reckoner.CommandLine

/-- The code of the error that a file stands where a path needs a directory. -/
def notDirectoryCode : UInt32 := 20

/-- What is found under a path; the empty path is the working directory.  A path that is refused is
taken for one that may not be read. -/
def readContent (path : String) : IO FileContent := do
  try
    return .bytes (← IO.FS.readBinFile (if path.isEmpty then "." else path))
  catch
    | .noFileOrDirectory .. => return .missing
    | .inappropriateType _ code _ => return if code = notDirectoryCode then .missing else .unreadable
    | .invalidArgument .. => return .unreachable
    | _ => return .unreadable

/-- A text with a line break at its end. -/
def withLineBreak (text : String) : String :=
  if text.isEmpty || text.endsWith "\n" then text else text ++ "\n"

/-- Prints a report and returns its exit code. -/
def Report.print (report : Report) : IO UInt32 := do
  IO.print (withLineBreak report.output)
  IO.eprint (withLineBreak report.errors)
  return UInt32.ofNat report.exitCode

end Reckoner.CommandLine

open Reckoner Reckoner.CommandLine

/-- Runs the program on its command line. -/
def main (arguments : List String) : IO UInt32 := do
  let host := { Host.platform with level := ← IO.getEnv levelVariable }
  match Command.ofArguments? host.readInteger arguments with
  | none => Report.usage.print
  | some command =>
      let content ←
        match command.file? (← IO.getEnv fileVariable) with
        | none => pure .missing
        | some path => readContent path
      (command.run host content).print

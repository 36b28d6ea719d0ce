import Kiosk.Cli.Invocation

/-!
# The program

Reads files from the disk, prints lines, and exits with the code of the ending.
Everything else is `Cli.invoke`.
-/

open Kiosk Kiosk.Cli

/-- Reads a file from the disk. -/
def readFromDisk (path : String) : IO (Except FileError String) := do
  try
    let bytes ← IO.FS.readBinFile path
    match String.fromUTF8? bytes with
    | some text => return .ok text
    | none => return .error .notText
  catch
    | .noFileOrDirectory .. => return .error .notFound
    | .inappropriateType _ code _ =>
      return .error (if code = 20 then .notADirectory else .isADirectory)
    | .invalidArgument _ 36 _ => return .error .nameTooLong
    | e => return .error (.other (toString e))

/-- Prints how an invocation ended, unless it went well. -/
def printEnding : Ending → IO Unit
  | .finished => return ()
  | .failed report => IO.eprintln report.text
  | .faulted fault => IO.eprintln fault.message

def main (words : List String) : IO UInt32 := do
  let env : Environment :=
    { xdgConfigHome := ← IO.getEnv "XDG_CONFIG_HOME", home := ← IO.getEnv "HOME" }
  let outcome ← invoke readFromDisk env words
  for line in outcome.lines do
    IO.println line
  printEnding outcome.ending
  return outcome.ending.code.toUInt32

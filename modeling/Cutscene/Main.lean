import Cutscene.Command.Answer

set_option relaxedAutoImplicit false
set_option autoImplicit false

/-!
# The program

The command line: reads what a request needs, and prints the answer to it. Everything is decided
in `Cutscene.Command`; here files are read and created, texts are printed, and time passes. Folders
are not listed here, and there is no terminal to open.
-/

namespace Cutscene.Command

/-- Why something could not be done to a file. -/
def readError : IO.Error → ReadError
  | .noFileOrDirectory .. => .missing
  | .inappropriateType .. => .isAFolder
  | e => .other e.toString

/-- What is found at a path. -/
def lookOutside (path : Path) : IO Place := do
  try
    let bytes ← IO.FS.readBinFile path
    match String.fromUTF8? bytes with
    | some text => return .file (.ok text)
    | none => return .file (.error .notText)
  catch e => return .file (.error (readError e))

/-- Creates a file. -/
def createOutside (path : Path) : IO (Except ReadError Unit) := do
  try
    IO.FS.writeFile path ""
    return .ok ()
  catch e => return .error (readError e)

/-- Puts out a text, or lets time pass. -/
def Output.perform (out : IO.FS.Stream) : Output → IO Unit
  | .print text => do
    out.putStr text
    out.flush
  | .wait length => IO.sleep (UInt32.ofNat (length.nanos / 1000000))

/-- Carries a request out. -/
def Request.perform (r : Request) : IO UInt8 := do
  let log ← match r.logFile with
    | some path => createOutside path
    | none => pure (.ok ())
  let place ← match r.scripts with
    | some path => lookOutside path
    | none => pure (.folder [])
  let answer := r.answer log (r.load fun _ => place)
  (← IO.getStderr).putStr answer.errors
  let out ← IO.getStdout
  for o in answer.output do
    o.perform out
  if answer.terminal.isSome then
    (← IO.getStderr).putStr "error: terminal error: no terminal to draw on\n"
    return 1
  return answer.code

end Cutscene.Command

open Cutscene.Command in
/-- Reads the command line and does what it asks for. -/
def main (args : List String) : IO UInt32 := do
  match Program.tool.ask args with
  | .print text =>
    (← IO.getStdout).putStr text
    return 0
  | .misuse help =>
    (← IO.getStderr).putStr help
    return 2
  | .request r => return (← r.perform).toUInt32

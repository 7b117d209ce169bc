import PipeAssist.CommandLine.Run

/-!
# The program

Gives `CommandLine.run` the files, the standard input and the home directory of the process.
-/

set_option autoImplicit false

namespace PipeAssist.Main

/-- Reads a file of the file system. -/
def readFile : FileReader IO := fun path => do
  try
    let bytes ← IO.FS.readBinFile path
    match String.fromUTF8? bytes with
    | some text => return .text text.toList
    | none => return .unreadable "stream did not contain valid UTF-8"
  catch
    | .noFileOrDirectory _ _ _ => return .missing
    | problem => return .unreadable (toString problem)

/-- Reads a stream to its end. -/
partial def readStream (stream : IO.FS.Stream) (bytes : ByteArray) : IO ByteArray := do
  let chunk ← stream.read 65536
  if chunk.isEmpty then return bytes else readStream stream (bytes ++ chunk)

/-- Reads the standard input to its end. -/
def readInput : IO Shell.Bytes := do
  let bytes ← readStream (← IO.getStdin) .empty
  return bytes.toList

/-- Runs a command line, writes its output and gives its exit code. -/
def run (arguments : List String) : IO UInt32 := do
  let home := (← IO.getEnv "HOME").getD "."
  let outcome ← CommandLine.run readFile readInput home arguments
  IO.print outcome.output
  IO.eprint outcome.errors
  return outcome.exitCode.toUInt32

end PipeAssist.Main

/-- The entry point. -/
def main (arguments : List String) : IO UInt32 := PipeAssist.Main.run arguments

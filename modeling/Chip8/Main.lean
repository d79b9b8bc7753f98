/-
The command line of the console.

This build has no window and no mixer, so the front end finds no host; the arguments,
the file they name and the environment are read here and everything else is decided in
`CommandLine.run`.
-/
import Chip8.CommandLine.Run

namespace Chip8

/-- What the operating system finds at the end of a path. -/
def findFile (path : FilePath) : IO Finding := do
  if path.names.any fun name => name.contains (Char.ofNat 0) then return .badName
  try
    let content ← IO.FS.readBinFile path.text
    return .file content.data
  catch e =>
    match e with
    | .noFileOrDirectory _ _ _ => return .missing
    | .inappropriateType _ code _ => return if code = 20 then .belowFile else .directory
    | _ => return .directory

/-- The file that the arguments name, if they can be read. -/
def findProgram (arguments : List String) : IO Finding :=
  match CommandLine.parse arguments with
  | .ok (.run settings) =>
    match settings.program with
    | some path => findFile path
    | none => return .missing
  | _ => return .missing

end Chip8

open Chip8 in
/-- Runs the program with the arguments and the environment of the process. -/
def main (arguments : List String) : IO UInt32 := do
  let found ← findProgram arguments
  let categories ← IO.getEnv "CHIP8_DEBUG"
  let outcome := CommandLine.run arguments (fun _ => found) none (Diagnostics.start categories)
  IO.print outcome.output
  IO.eprint outcome.errorOutput
  match outcome.ending with
  | .returned status => return UInt32.ofNat status
  | .exited status => return UInt32.ofNat status
  | .raised e =>
    IO.eprintln e.message
    return 1

/-
The program as a whole: from arguments to an exit status.

Arguments that cannot be read end the program with status 2 and a usage message, and so
do settings that make no sense.  A front end that comes to an end in a way it foresees
gives status 1 and one line.  Diagnostics go to standard output.
-/
import Chip8.CommandLine.Arguments

namespace Chip8.CommandLine

/-- How the program ends. -/
inductive Ending where
  /-- It comes to its end, with a status. -/
  | returned (status : Nat)
  /-- It breaks off, with a status. -/
  | exited (status : Nat)
  /-- An error that nobody foresaw. -/
  | raised (error : WindowError)

/-- Everything that can be seen of a run from outside. -/
structure Outcome where
  ending : Ending
  output : String
  errorOutput : String
  /-- What the host was asked to do. -/
  calls : List HostCall

/-- The program refuses its arguments. -/
def refuse (e : UsageError) : Outcome :=
  ⟨.exited 2, "", usage ++ programName ++ ": error: " ++ e.message ++ "\n", []⟩

/-- The program shows its help text. -/
def showHelp : Outcome := ⟨.exited 0, helpText, "", []⟩

/-- What is wrong with settings that could be read, if anything. -/
def settingsError? (settings : WindowSettings) (find : FilePath → Finding) : Option UsageError :=
  match settings.program.filter fun path => !(find path).isPresent with
  | some path => some (.programNotFound path)
  | none =>
    if settings.clockSpeed < 0 then some (.negativeSpeed settings.clockSpeed)
    else if min settings.width settings.height ≤ 0 then some .badWindowSize
    else none

/-- The end of the program after the front end. -/
def ofWindow (o : Window.Outcome) : Outcome :=
  let calls := ((o.host.map (·.calls)).getD #[]).toList
  match o.result with
  | .ok () => ⟨.returned 0, o.diagnostics.text, "", calls⟩
  | .error e =>
    if e.foreseen then
      ⟨.exited 1, o.diagnostics.text, programName ++ ": " ++ e.message ++ "\n", calls⟩
    else
      ⟨.raised e, o.diagnostics.text, "", calls⟩

/-- Runs the program. -/
def run (arguments : List String) (find : FilePath → Finding) (host : Option Host)
    (d : Diagnostics) : Outcome :=
  match parse arguments with
  | .error e => refuse e
  | .ok .help => showHelp
  | .ok (.run settings) =>
    match settingsError? settings find with
    | some e => refuse e
    | none => ofWindow (Window.run settings find host d)

end Chip8.CommandLine

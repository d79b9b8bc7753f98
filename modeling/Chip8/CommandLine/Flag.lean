/-
The options of the command line.

An option has one or two names and takes a fixed number of values.  The usage text and
the help text list them in the same order.
-/
namespace Chip8.CommandLine

/-- An option. -/
inductive Flag where
  | help
  | clockSpeed
  | noSound
  | windowSize
  | fullscreen
  | truncateJump
deriving DecidableEq, Repr

namespace Flag

/-- All options. -/
def all : List Flag := [help, clockSpeed, noSound, windowSize, fullscreen, truncateJump]

/-- The names of an option. -/
def names : Flag → List String
  | help => ["-h", "--help"]
  | clockSpeed => ["--clock-speed"]
  | noSound => ["--no-sound"]
  | windowSize => ["--window-size"]
  | fullscreen => ["--fullscreen"]
  | truncateJump => ["--truncate-jump"]

/-- The number of values an option takes. -/
def arity : Flag → Nat
  | clockSpeed => 1
  | windowSize => 2
  | _ => 0

/-- An option as messages name it. -/
def title (f : Flag) : String := String.intercalate "/" f.names

/-- Every name with its option. -/
def named : List (String × Flag) := all.flatMap fun f => f.names.map fun name => (name, f)

/-- The option with a name. -/
def ofName? (name : List Char) : Option (String × Flag) :=
  named.find? fun entry => entry.1.toList == name

theorem mem_all (f : Flag) : f ∈ all := by cases f <;> decide

end Flag

/-- The name of the program. -/
def programName : String := "run.py"

/-- Lines of text, each with its end. -/
def ofLines (lines : List String) : String := String.join (lines.map fun line => line ++ "\n")

/-- How the program is called. -/
def usage : String := ofLines [
  "usage: run.py [-h] [--clock-speed CLOCK_SPEED] [--no-sound]",
  "              [--window-size WIDTH HEIGHT] [--fullscreen] [--truncate-jump]",
  "              rom"]

/-- What the program says about itself. -/
def helpText : String := usage ++ ofLines [
  "",
  "CHIP-8 emulator (Python)",
  "",
  "positional arguments:",
  "  rom                   Path to the CHIP-8 ROM image",
  "",
  "options:",
  "  -h, --help            show this help message and exit",
  "  --clock-speed CLOCK_SPEED",
  "                        Instructions executed per second (default: 600)",
  "  --no-sound            Disable the sound timer tone",
  "  --window-size WIDTH HEIGHT",
  "                        Window size in pixels (default: 640 320)",
  "  --fullscreen          Launch the emulator in fullscreen mode",
  "  --truncate-jump       Narrow Bnnn jump targets to eight bits like some",
  "                        legacy interpreters"]

end Chip8.CommandLine

/-
Reading the arguments of the command line.

First every argument is looked at on its own.  It is an option if it begins with a dash
and is the name of one, the beginning of exactly one long name, or either of these with
an equals sign and a value.  A lone dash, a negative number and anything with a blank in
it are no options but plain arguments, and so is all that follows the first double dash.
What looks like an option but is none is set aside as unknown.

Then the arguments are taken from left to right.  Options take the plain arguments that
follow them as their values, the first plain argument that is left is the program, and
whatever else is left over is refused at the end.
-/
import Chip8.CommandLine.Flag
import Chip8.Text.Integer
import Chip8.Window

namespace Chip8.CommandLine

/-- Why arguments are refused. -/
inductive UsageError where
  /-- The beginning of more than one name. -/
  | ambiguous (argument : String) (candidates : List String)
  /-- A value written to an option that takes none. -/
  | valueIgnored (flag : Flag) (value : String)
  /-- An option with too few values behind it. -/
  | valuesMissing (flag : Flag)
  /-- A value that is no whole number. -/
  | badNumber (flag : Flag) (value : String)
  /-- No argument names a program. -/
  | programMissing
  /-- Arguments that nothing has taken. -/
  | unrecognized (arguments : List String)
  /-- There is no file at the program's path. -/
  | programNotFound (path : FilePath)
  /-- A speed below zero. -/
  | negativeSpeed (speed : Int)
  /-- A window without width or height. -/
  | badWindowSize

namespace UsageError

/-- A complaint about an option. -/
def about (flag : Flag) (complaint : String) : String :=
  "argument " ++ flag.title ++ ": " ++ complaint

/-- What is printed after the usage. -/
def message : UsageError → String
  | ambiguous argument candidates =>
    "ambiguous option: " ++ argument ++ " could match " ++ String.intercalate ", " candidates
  | valueIgnored flag value => about flag ("ignored explicit argument " ++ quoted value)
  | valuesMissing flag =>
    about flag
      (if flag.arity = 1 then "expected one argument"
        else "expected " ++ toString flag.arity ++ " arguments")
  | badNumber flag value => about flag ("invalid int value: " ++ quoted value)
  | programMissing => "the following arguments are required: rom"
  | unrecognized arguments => "unrecognized arguments: " ++ String.intercalate " " arguments
  | programNotFound path => "ROM file not found: " ++ path.text
  | negativeSpeed speed => "clock speed must not be negative: " ++ toString speed
  | badWindowSize => "window size must be positive"

end UsageError

/-! ### Each argument on its own -/

/-- A value in the same argument as its option. -/
structure Attached where
  /-- Whether an equals sign stands before it. -/
  equals : Bool
  value : List Char

/-- What an argument is. -/
inductive Argument where
  | plain (text : String)
  /-- The double dash after which all arguments are plain. -/
  | divider
  | option (flag : Flag) (attached : Option Attached)
  | unknown (text : String)

/-- What stands before the first equals sign, and the value behind it. -/
def splitEquals (text : List Char) : List Char × Option Attached :=
  match text.span (· != '=') with
  | (name, '=' :: value) => (name, some ⟨true, value⟩)
  | (name, _) => (name, none)

/-- The readings of an argument whose name is not written in full. -/
def readings (text : List Char) : List (String × Flag × Option Attached) :=
  match text with
  | '-' :: '-' :: _ =>
    let (name, attached) := splitEquals text
    (Flag.named.filter fun entry => name.isPrefixOf entry.1.toList).map fun (full, flag) =>
      (full, flag, attached)
  | dash :: letter :: rest =>
    (Flag.named.filter fun entry => entry.1.toList == [dash, letter]).map fun (full, flag) =>
      (full, flag, some ⟨false, rest⟩)
  | _ => []

/-- Whether a text is a run of decimal digits. -/
def allDigits (text : List Char) : Bool := text.all fun c => (digitValue? c).isSome

/-- Whether a text is a minus sign with a number behind it, which may have a fraction. -/
def isNegativeNumber (text : List Char) : Bool :=
  match text with
  | '-' :: number =>
    let number := if number.getLast? == some '\n' then number.dropLast else number
    match number.span (· != '.') with
    | (whole, '.' :: fraction) => allDigits whole && !fraction.isEmpty && allDigits fraction
    | (whole, _) => !whole.isEmpty && allDigits whole
  | _ => false

/-- What an argument is that begins with a dash and is no complete name. -/
def classifyDashed (text : String) : Except UsageError Argument :=
  let (name, attached) := splitEquals text.toList
  match attached, Flag.ofName? name with
  | some _, some (_, flag) => .ok (.option flag attached)
  | _, _ =>
    match readings text.toList with
    | [(_, flag, attached)] => .ok (.option flag attached)
    | [] =>
      .ok (if isNegativeNumber text.toList || text.toList.contains ' ' then .plain text
        else .unknown text)
    | several => .error (.ambiguous text (several.map (·.1)))

/-- What an argument is, before any double dash. -/
def classify (text : String) : Except UsageError Argument :=
  match text.toList with
  | '-' :: _ :: _ =>
    match Flag.ofName? text.toList with
    | some (_, flag) => .ok (.option flag none)
    | none => classifyDashed text
  | _ => .ok (.plain text)

/-- What all arguments are. -/
def classifyAll : List String → Except UsageError (List Argument)
  | [] => .ok []
  | "--" :: rest => .ok (.divider :: rest.map .plain)
  | text :: rest => do
    let argument ← classify text
    let arguments ← classifyAll rest
    return argument :: arguments

/-! ### From left to right -/

/-- What has been read so far. -/
structure Reading where
  settings : WindowSettings
  /-- The arguments that nothing takes. -/
  leftOver : List String

/-- What the arguments ask for. -/
inductive Request where
  | help
  | run (settings : WindowSettings)

/-- The value of an option as a number. -/
def number (flag : Flag) (text : String) : Except UsageError Int :=
  match readInteger? text with
  | some n => .ok n
  | none => .error (.badNumber flag text)

/-- The settings with an option that takes no value. -/
def setSwitch (settings : WindowSettings) : Flag → WindowSettings
  | .noSound => { settings with sound := false }
  | .fullscreen => { settings with fullscreen := true }
  | .truncateJump => { settings with truncateJump := true }
  | _ => settings

/--
What becomes of letters behind the short name of the help option.  They may repeat that
name; a value is refused; any other letter is not reached, because help comes first.
-/
def helpCluster (equals : Bool) (value : List Char) : Except UsageError Unit :=
  match value with
  | 'h' :: '=' :: rest =>
    if equals then .error (.valueIgnored .help (String.ofList value))
    else helpCluster true rest
  | 'h' :: c :: rest =>
    if equals then .error (.valueIgnored .help (String.ofList value))
    else helpCluster false (c :: rest)
  | [] => .error (.valueIgnored .help "")
  | c :: _ =>
    if equals || c == '-' then .error (.valueIgnored .help (String.ofList value)) else .ok ()

/-- Takes the arguments in order. -/
def takeAll (r : Reading) : List Argument → Except UsageError Request
  | [] =>
    if r.settings.program.isNone then .error .programMissing
    else if r.leftOver.isEmpty then .ok (.run r.settings)
    else .error (.unrecognized r.leftOver)
  | .option .help none :: _ => .ok .help
  | .option .help (some attached) :: _ =>
    match helpCluster attached.equals attached.value with
    | .ok () => .ok .help
    | .error e => .error e
  | .option .clockSpeed (some attached) :: rest => do
    let speed ← number .clockSpeed (String.ofList attached.value)
    takeAll { r with settings := { r.settings with clockSpeed := speed } } rest
  | .option .clockSpeed none :: .plain speed :: rest => do
    let speed ← number .clockSpeed speed
    takeAll { r with settings := { r.settings with clockSpeed := speed } } rest
  | .option .clockSpeed none :: _ => .error (.valuesMissing .clockSpeed)
  | .option .windowSize none :: .plain width :: .plain height :: rest => do
    let width ← number .windowSize width
    let height ← number .windowSize height
    takeAll { r with settings := { r.settings with width, height } } rest
  | .option .windowSize _ :: _ => .error (.valuesMissing .windowSize)
  | .option flag (some attached) :: _ =>
    .error (.valueIgnored flag (String.ofList attached.value))
  | .option flag none :: rest => takeAll { r with settings := setSwitch r.settings flag } rest
  | .unknown text :: rest => takeAll { r with leftOver := r.leftOver ++ [text] } rest
  | .divider :: .plain text :: rest =>
    if r.settings.program.isNone then
      takeAll { r with settings := { r.settings with program := some (.ofText text) } } rest
    else
      takeAll { r with leftOver := r.leftOver ++ ["--", text] } rest
  | .divider :: rest => takeAll { r with leftOver := r.leftOver ++ ["--"] } rest
  | .plain text :: .divider :: rest =>
    if r.settings.program.isNone then
      takeAll { r with settings := { r.settings with program := some (.ofText text) } } rest
    else
      takeAll { r with leftOver := r.leftOver ++ [text, "--"] } rest
  | .plain text :: rest =>
    if r.settings.program.isNone then
      takeAll { r with settings := { r.settings with program := some (.ofText text) } } rest
    else
      takeAll { r with leftOver := r.leftOver ++ [text] } rest

/-- What the arguments ask for. -/
def parse (arguments : List String) : Except UsageError Request := do
  let classified ← classifyAll arguments
  takeAll ⟨WindowSettings.standard, []⟩ classified

end Chip8.CommandLine

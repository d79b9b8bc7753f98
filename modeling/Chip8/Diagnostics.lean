/-
Diagnostic output by category.

What is printed is decided by a variable of the environment that lists categories.
The list is read when a category is first asked for, and from then on the answer does
not follow the variable until it is told to forget.  The category `all` stands for
every one; an empty list prints nothing.

Printing is data here: a message that passes is added to `printed`.
-/
import Chip8.Text.Blank
import Chip8.Text.Lowercase
import Chip8.Text.Template

namespace Chip8

/-- The variable, what was read from it, and what was printed. -/
structure Diagnostics where
  /-- The present value of the variable, if it is set. -/
  setting : Option String
  /-- The categories that hold until the next `forget`. -/
  cached : Option (List String)
  /-- The printed messages, each with its category in front. -/
  printed : Array String

namespace Diagnostics

/-- The state at the start, with a value of the variable. -/
def start (setting : Option String) : Diagnostics := ⟨setting, none, #[]⟩

/-- The parts of a text between commas. -/
def commaParts : List Char → List (List Char)
  | [] => [[]]
  | ',' :: rest => [] :: commaParts rest
  | c :: rest =>
    match commaParts rest with
    | [] => [[c]]
    | part :: parts => (c :: part) :: parts

/-- The categories in the value of the variable, in small letters, each one once. -/
def categories (value : String) : List String :=
  let parts := (commaParts value.toList).map (trim isBlank)
  ((parts.filter fun part => !part.isEmpty).map fun part =>
    String.ofList (lowercase part)).eraseDups

/-- The state after the variable was set or removed. -/
def setVariable (d : Diagnostics) (value : Option String) : Diagnostics :=
  { d with setting := value }

/-- The state in which the variable will be read again. -/
def forget (d : Diagnostics) : Diagnostics := { d with cached := none }

/-- The categories that hold now. -/
def active (d : Diagnostics) : List String :=
  d.cached.getD (categories (d.setting.getD ""))

/-- The state after the categories were asked for. -/
def consulted (d : Diagnostics) : Diagnostics := { d with cached := some d.active }

/-- Whether a list of categories lets a category through; without one, whether it lets
anything through. -/
def allows (active : List String) (category : Option String) : Bool :=
  match category with
  | none => !active.isEmpty
  | some category =>
    !active.isEmpty
      && (active.contains "all" || active.contains (String.ofList (lowercase category.toList)))

/-- Whether a category is printed, or, without one, anything at all. -/
def enabled (d : Diagnostics) (category : Option String) : Bool := allows d.active category

/-- Asks whether a category is printed, which also settles the categories that hold. -/
def ask (d : Diagnostics) (category : Option String) : Bool × Diagnostics :=
  (d.enabled category, d.consulted)

/-- A message as it is printed. -/
def line (category message : String) : String := "[CHIP8][" ++ category ++ "] " ++ message

/-- The state after a message was offered. -/
def log (d : Diagnostics) (category message : String) : Diagnostics :=
  let d := d.consulted
  if d.enabled (some category) then { d with printed := d.printed.push (line category message) }
  else d

/-- A template with its values; one that cannot be filled is followed by the values. -/
def filled (template : String) (values : List TemplateValue) : String :=
  (Template.fill? template values).getD (template ++ " " ++ TemplateValue.shownAll values)

/-- The state after a template was offered; without values it is a plain message. -/
def logFilled (d : Diagnostics) (category template : String) (values : List TemplateValue) :
    Diagnostics :=
  d.log category (if values.isEmpty then template else filled template values)

/-- The state after several messages of one category were offered. -/
def logEach (d : Diagnostics) (category : String) (messages : List String) : Diagnostics :=
  messages.foldl (fun d message => d.log category message) d

/-- Everything that was printed, as one text. -/
def text (d : Diagnostics) : String :=
  d.printed.foldl (fun text message => text ++ message ++ "\n") ""

end Diagnostics

end Chip8

/-
Paths, and what is found at the end of one.

A path is a root and the names below it; empty names and single dots say nothing and
are left out, double dots are kept.  A `Directory` is a small tree of files, against
which a path can be followed name by name.
-/
import Chip8.Program
import Chip8.Text.Quoted

namespace Chip8

/-- A path. -/
structure FilePath where
  /-- What stands in front of the names: nothing, one slash or exactly two. -/
  root : List Char
  names : List (List Char)
deriving DecidableEq

namespace FilePath

/-- The parts of a text between slashes. -/
def slashParts : List Char → List (List Char)
  | [] => [[]]
  | '/' :: rest => [] :: slashParts rest
  | c :: rest =>
    match slashParts rest with
    | [] => [[c]]
    | part :: parts => (c :: part) :: parts

/-- The slashes in front of a text that count: three or more are one. -/
def rootOf (text : List Char) : List Char :=
  match (text.takeWhile (· == '/')).length with
  | 0 => []
  | 2 => ['/', '/']
  | _ => ['/']

/-- The path in a text. -/
def ofText (text : String) : FilePath where
  root := rootOf text.toList
  names := (slashParts text.toList).filter fun name => !name.isEmpty && name != ['.']

/-- The text of a path; a path that says nothing is a single dot. -/
def text (p : FilePath) : String :=
  if p.root.isEmpty && p.names.isEmpty then "."
  else String.ofList (p.root ++ List.intercalate ['/'] p.names)

/-- The last name. -/
def name (p : FilePath) : String := String.ofList (p.names.getLastD [])

end FilePath

/-- What is at the end of a path. -/
inductive Finding where
  | file (content : Array UInt8)
  | directory
  | missing
  /-- A name below something that is no directory. -/
  | belowFile
  /-- A name that no file can have. -/
  | badName

/-- Whether there is anything at the end of the path. -/
def Finding.isPresent : Finding → Bool
  | file _ => true
  | directory => true
  | _ => false

/-- Why a file cannot be read. -/
inductive FileError where
  /-- There is nothing at the path. -/
  | missing (path : FilePath)
  /-- The path leads through a file. -/
  | belowFile (path : FilePath)
  /-- There is a directory at the path. -/
  | directory (path : FilePath)
  /-- The path holds a character that no path can. -/
  | badName

namespace FileError

/-- The system's message, with its number and the path. -/
def message : FileError → String
  | missing path => "[Errno 2] No such file or directory: " ++ quoted path.text
  | belowFile path => "[Errno 20] Not a directory: " ++ quoted path.text
  | directory path => "[Errno 21] Is a directory: " ++ quoted path.text
  | badName => "embedded null byte"

end FileError

/-- The content of what was found at the end of a path, if it is a file. -/
def Finding.read (path : FilePath) : Finding → Except FileError (Array UInt8)
  | file content => .ok content
  | directory => .error (.directory path)
  | missing => .error (.missing path)
  | belowFile => .error (.belowFile path)
  | badName => .error .badName

/-- Files and directories by their names below a common directory. -/
structure Directory where
  files : List (List (List Char) × Array UInt8)
  directories : List (List (List Char))

namespace Directory

/-- Whether some names lead to a directory: one that is listed, or one above something listed. -/
def holds (d : Directory) (names : List (List Char)) : Bool :=
  names.isEmpty || d.directories.any names.isPrefixOf
    || d.files.any fun file => names.isPrefixOf file.1 && names.length < file.1.length

/-- The content of the file that some names lead to. -/
def file? (d : Directory) (names : List (List Char)) : Option (Array UInt8) :=
  (d.files.find? fun file => file.1 == names).map (·.2)

/-- What is found at some names below a directory, or above the common directory if there
is none. -/
def follow (d : Directory) (above : Option (List (List Char))) : List (List Char) → Finding
  | [] => .directory
  | name :: rest =>
    match above with
    | none => if name = ['.', '.'] then d.follow none rest else .missing
    | some names =>
      if name = ['.', '.'] then
        d.follow (if names.isEmpty then none else some names.dropLast) rest
      else
        let names := names ++ [name]
        match d.file? names with
        | some content => if rest.isEmpty then .file content else .belowFile
        | none => if d.holds names then d.follow (some names) rest else .missing

/-- What is found at the end of a path. -/
def find (d : Directory) (p : FilePath) : Finding :=
  if p.names.any fun name => name.contains (Char.ofNat 0) then .badName
  else d.follow (if p.root.isEmpty then some [] else none) p.names

end Directory

/-- Why there is no program at the end of a path. -/
inductive ProgramError where
  | unreadable (error : FileError)
  | badImage (name : String) (error : BadImage)

/-- The complaint about the file or about what it holds. -/
def ProgramError.message : ProgramError → String
  | unreadable error => error.message
  | badImage name error => error.fileMessage name

/-- The program in what was found at the end of a path. -/
def Program.ofFinding (path : FilePath) (found : Finding) : Except ProgramError Program :=
  match found.read path with
  | .error e => .error (.unreadable e)
  | .ok content =>
    match Program.ofImage path.name content with
    | .ok program => .ok program
    | .error e => .error (.badImage path.name e)

end Chip8

import BuildPicker.Text.Quoted
import BuildPicker.Document.Basic
import BuildPicker.History.Snapshot

/-!
Files, and why nothing can be loaded from one.

What is loaded depends on files only through `Files`, so the same functions serve
a directory on disk and a table of contents in memory.
-/

namespace BuildPicker

open BuildPicker.Text

/-- Access to files by their paths; reading gives the content or what the system says. -/
structure Files (m : Type → Type) where
  has : String → m Bool
  read : String → m (Except String String)

/-! ### Paths -/

/-- The parts of a path between its slashes. -/
def pathParts (path : String) : List (List Char) :=
  parts [] path.toList
where
  parts (part : List Char) : List Char → List (List Char)
    | [] => [part]
    | c :: cs => if c = '/' then part :: parts [] cs else parts (part ++ [c]) cs

/-- A part that stays in its directory. -/
def isIdlePart (part : List Char) : Bool :=
  part.isEmpty || part == ['.']

/-- The part that leads to the directory around. -/
def parentPart : List Char := ['.', '.']

/-- The last part of a path that is not empty and not a dot. -/
def fileName (path : String) : List Char :=
  ((pathParts path).reverse.find? (!isIdlePart ·)).getD []

/-- What stands behind the last dot of a file's name, if something stands before it. -/
def fileExtension? (path : String) : Option (List Char) :=
  match BuildRef.splitLast? '.' (fileName path) with
  | some (_ :: _, behind) => some behind
  | _ => none

/-- A file is in JSON if its extension says so, in letters of either case. -/
def formatOf (path : String) : Format :=
  if (fileExtension? path).any fun e => e.map Char.toLower = "json".toList then .json else .yaml

/-! ### Files in memory -/

/-- What is said of a path that leads to nothing. -/
def noSuchFile : String := "No such file or directory (os error 2)"

/-- What is said of a path that goes on behind a file. -/
def notADirectory : String := "Not a directory (os error 20)"

/-- What is said of a directory that is read like a file. -/
def isADirectory : String := "Is a directory (os error 21)"

namespace Files

/-- Whether files lie in a directory. -/
def hasDirectory (files : Table String) (directory : List Char) : Bool :=
  files.entries.any fun file => (directory ++ ['/']).isPrefixOf file.1.toList

/-- What is read by the parts of a path from a directory that is not known. -/
def outside (parts : List (List Char)) : Except String String :=
  if parts.all fun part => isIdlePart part || part == parentPart then .error isADirectory
  else .error noSuchFile

/-- Follows the parts of a path from a directory, given by its parts with the last first. -/
def follow (files : Table String) (directory : List (List Char)) :
    List (List Char) → Except String String
  | [] => .error isADirectory
  | part :: rest =>
    if isIdlePart part then follow files directory rest
    else if part == parentPart then
      match directory with
      | _ :: outer => follow files outer rest
      | [] => outside rest
    else
      let here := part :: directory
      let name := ['/'].intercalate here.reverse
      match files.get? (String.ofList name) with
      | some content => if rest.isEmpty then .ok content else .error notADirectory
      | none => if hasDirectory files name then follow files here rest else .error noSuchFile

/-- Reads a file by a path from the directory in which all files lie. -/
def readTable (files : Table String) (path : String) : Except String String :=
  match pathParts path with
  | [[]] => .error noSuchFile
  | [] :: parts => outside parts
  | parts => follow files [] parts

/-- Files in memory. -/
def ofTable (files : Table String) : Files Id where
  has path := match readTable files path with
    | .ok _ => true
    | .error reason => reason == isADirectory
  read path := readTable files path

end Files

/-! ### Errors -/

/-- What is loaded. -/
inductive Subject
  | history
  | settings
  deriving DecidableEq

def Subject.label : Subject → String
  | history => "history file"
  | settings => "selector settings"

inductive LoadError
  | unreadable (subject : Subject) (path reason : String)
  | malformed (subject : Subject) (format : Format)
  | duplicate (cause : DuplicateError)
  | within (subject : Subject) (path : String) (cause : LoadError)
  deriving DecidableEq

namespace LoadError

/-- A fixed name for the sort of error. -/
def code : LoadError → String
  | unreadable _ _ _ => "READ"
  | malformed _ _ => "PARSE"
  | duplicate (.job _) => "DUPLICATE_JOB"
  | duplicate (.build _) => "DUPLICATE_BUILD"
  | within _ _ cause => cause.code

/-- The messages, each caused by the next. -/
def chain : LoadError → List String
  | unreadable subject path reason =>
    ["Failed to read " ++ subject.label ++ ": " ++ quoteForMessage path, reason]
  | malformed .history .json => ["Failed to parse history JSON"]
  | malformed .history .yaml => ["Failed to parse history YAML"]
  | malformed .settings _ => ["Failed to parse selector settings YAML"]
  | duplicate cause => [cause.message]
  | within subject path cause =>
    ("Invalid " ++ subject.label ++ ": " ++ quoteForMessage path) :: cause.chain

end LoadError

/-- Loads from a file what its text gives. -/
def Files.load {m : Type → Type} [Monad m] {α : Type} (files : Files m) (subject : Subject)
    (path : String) (ofText : String → Except LoadError α) : m (Except LoadError α) := do
  match ← files.read path with
  | .error reason => return .error (.unreadable subject path reason)
  | .ok content =>
    match ofText content with
    | .error e => return .error (.within subject path e)
    | .ok a => return .ok a

end BuildPicker

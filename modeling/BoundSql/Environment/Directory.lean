/-!
# Directories

A working directory in the file system it stands in: the location of the directory, and
everything else that is there, from the root on. A path is walked name by name, from the root or
from the working directory, and walking needs directories. Other than by a path, a file can be
looked up in the working directory and in the directories it stands in, the closest one first.
-/

namespace BoundSql.Environment

/-- The names that lead from the root to a place. -/
abbrev Location := List (List Char)

/-- A working directory, and the files and directories of its file system. A directory exists if
it is listed, or if something that exists lies in it. -/
structure Directory where
  /-- The location of the working directory. -/
  home : Location
  /-- Every file with its text. -/
  files : List (Location × String)
  /-- Directories, among them those in which nothing lies. -/
  folders : List Location := []
deriving DecidableEq, Repr

/-- What a path leads to. -/
inductive Place where
  /-- A file with its text. -/
  | file (text : String)
  /-- A directory. -/
  | directory
  /-- Nothing. -/
  | missing
deriving DecidableEq, Repr

/-- The text of a file. -/
def Place.text? : Place → Option String
  | .file text => some text
  | _ => none

namespace Directory

/-- What stands at a location. -/
def placeAt (d : Directory) (location : Location) : Place :=
  match d.files.lookup location with
  | some text => .file text
  | none =>
    if (d.home :: d.folders ++ d.files.map Prod.fst).any location.isPrefixOf then .directory
    else .missing

/-- Walks on from a location, which has to be a directory for each further name. The root is
above itself. -/
def walk (d : Directory) (location : Location) : List (List Char) → Place
  | [] => d.placeAt location
  | name :: rest =>
    match d.placeAt location with
    | .directory =>
      if name = [] ∨ name = ['.'] then d.walk location rest
      else if name = ['.', '.'] then d.walk location.dropLast rest
      else d.walk (location ++ [name]) rest
    | _ => .missing

/-- The most bytes a path may take in UTF-8. -/
def maximumPathBytes : Nat := 4095

/-- What a path leads to: from the root if it begins with a slash, else from the working
directory. An empty or overlong path leads nowhere. -/
def find (d : Directory) (path : String) : Place :=
  if maximumPathBytes < path.utf8ByteSize then .missing
  else match path.toList with
    | [] => .missing
    | '/' :: text => d.walk [] (text.splitOn '/')
    | text => d.walk d.home (text.splitOn '/')

/-- The text of the file under a path. -/
def read? (d : Directory) (path : String) : Option String := (d.find path).text?

/-- The text of the file with a name in the directory that the first names of the working directory
lead to. -/
def above? (d : Directory) (name : String) (depth : Nat) : Option String :=
  (d.placeAt (d.home.take depth ++ [name.toList])).text?

/-- The text of the file with a name in that directory, or else in the closest one above it that
has such a file. -/
def upward? (d : Directory) (name : String) : Nat → Option String
  | 0 => d.above? name 0
  | depth + 1 => (d.above? name (depth + 1)).or (d.upward? name depth)

/-- The text of the file with a name in the working directory, or else in the closest one above
it. -/
def nearest? (d : Directory) (name : String) : Option String := d.upward? name d.home.length

end Directory

end BoundSql.Environment

import AsCensus.Text.Blank

namespace AsCensus
namespace Path

open Text

/-!
# Paths

A path is a text of names with slashes between them.  One that starts with a slash
leads from the root of the file system, any other one from the working directory.
Empty names between slashes do not count.  The name `.` stays where it is, and `..`
goes one place up.
-/

/-- The names of a path. -/
def names (path : String) : List String :=
  ((path.toList.splitOn '/').filter fun name => name ≠ []).map String.ofList

/-- The names of a path that lead somewhere else. -/
def movingNames (path : String) : List String :=
  (names path).filter fun name => name ≠ "."

/-- Whether a path leads from the root of the file system. -/
def isAbsolute (path : String) : Bool :=
  path.toList.head? == some '/'

/-- Whether a path ends with a slash, which only a directory may. -/
def endsWithSlash (path : String) : Bool :=
  path.toList.getLast? == some '/'

/-- A path without the slashes at its end. -/
def withoutFinalSlashes (path : String) : String :=
  String.ofList (dropEndWhile (· == '/') path.toList)

/-- A path within a directory.  A path that starts at the root leads there. -/
def join (directory path : String) : String :=
  if isAbsolute path then path
  else if directory = "" ∨ endsWithSlash directory then directory ++ path
  else directory ++ "/" ++ path

/-- The path along names. -/
def ofNames (absolute : Bool) (names : List String) : String :=
  (if absolute then "/" else "") ++ String.intercalate "/" names

/-- The last name of a path. -/
def lastName (path : String) : List Char :=
  (path.toList.reverse.takeWhile fun c => c != '/').reverse

/-- A path with something added to the last name on it, if that names anything. -/
def withEnding? (path ending : String) : Option String :=
  match (movingNames path).getLast? with
  | none => none
  | some ".." => none
  | some last =>
      some (ofNames (isAbsolute path) ((movingNames path).dropLast ++ [last ++ ending]))

end Path
end AsCensus

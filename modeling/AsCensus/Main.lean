import AsCensus.CommandLine.Run
import Std.Time.DateTime.Timestamp

namespace AsCensus
namespace CommandLine

open Store

/-!
# The program

The program gathers what a run finds around it, runs, and puts what the run leaves
behind back in place.  Only the paths that the arguments tell of are looked at.

No command is started and nothing is fetched from here: every registry counts as
one that could not be asked.
-/

/-- The places that lie on the way to a place, the place included. -/
def placesAlong (place : Place) : List Place :=
  (List.range (place.length + 1)).map fun count => place.take count

/-- The path of a place. -/
def pathOf (place : Place) : String :=
  Path.ofNames true place

/-- Whether a path leads to a directory. -/
def isDirectoryAt (path : String) : IO Bool := do
  let directory ← IO.currentDir
  (directory / path).isDir

/-- The bytes of the file that a path leads to. -/
def bytesAt? (path : String) : IO (Option (List UInt8)) :=
  try
    let bytes ← IO.FS.readBinFile path
    pure (some bytes.toList)
  catch _ => pure none

/-- Look at one place of the file system. -/
def lookAt (tree : FileTree) (place : Place) : IO FileTree := do
  let path := pathOf place
  if ← isDirectoryAt path then
    pure (tree.putDirectory place)
  else
    match ← bytesAt? path with
    | some bytes => pure (tree.putFile place bytes)
    | none => pure tree

/-- Look at the places along paths. -/
def gather (paths : List String) : IO FileTree := do
  let directory ← IO.currentDir
  let bare : FileTree := { workingDirectory := Path.names directory.toString }
  let places := (bare.workingDirectory :: paths.map bare.placeOf).flatMap placesAlong
  places.eraseDups.foldlM lookAt bare

mutual

/-- Put back what stands at a place, where it is new or changed. -/
partial def putBackAt (before : FileTree) (place : Place) : FileNode -> IO Unit
  | .file bytes _ => do
      if before.bytesAt place != some bytes then
        IO.FS.writeBinFile (pathOf place) bytes.toByteArray
  | .directory entries => do
      if (before.root.at? place).isNone then
        IO.FS.createDirAll (pathOf place)
      putBackEntries before place entries

/-- Put back the entries of a directory. -/
partial def putBackEntries (before : FileTree) (place : Place) :
    List (String × FileNode) -> IO Unit
  | [] => pure ()
  | (name, node) :: rest => do
      putBackAt before (place ++ [name]) node
      putBackEntries before place rest

end

/-- Put the files of a run back in place. -/
def putBack (before after : FileTree) : IO Unit :=
  putBackAt before [] after.root

/-- The variables of the environment that settings are taken from. -/
def readEnvironment : IO Environment := do
  let names := "HOME" :: Settings.keys.map Settings.Layer.variableName
  names.filterMapM fun name => do
    let value ← IO.getEnv name
    pure (value.map fun value => (name, value))

/-- Run the program in the working directory. -/
def runHere (arguments : List String) : IO UInt32 := do
  let environment ← readEnvironment
  let home := (environment.valueOf? "HOME").getD "."
  let paths :=
    match parse arguments with
    | .ok request => request.paths home
    | .error _ => []
  let tree ← gather paths
  let now ← Std.Time.Timestamp.now
  let host : Host :=
    { tree := tree
      home := home
      environment := environment
      clientOf := fun command => .missing command "commands are not started"
      fetch := fun _ => .error "nothing is fetched"
      now := now.toSecondsSinceUnixEpoch.val }
  let outcome := run host arguments
  putBack tree outcome.tree
  IO.print outcome.output
  for message in outcome.errors do
    IO.eprintln message
  pure outcome.exitCode.toUInt32

end CommandLine
end AsCensus

/-- Run the program and give its exit code. -/
def main (arguments : List String) : IO UInt32 :=
  AsCensus.CommandLine.runHere arguments

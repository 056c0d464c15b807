import AsCensus.Files.Node
import AsCensus.Path

namespace AsCensus

/-!
# Walking along paths

A path is walked name by name, and every name before the last one must lead to a
directory.  The name `.` can only be taken within a directory, so that it tells a
directory from a plain file.  At the root `..` stays where it is.

A name of more than 255 bytes leads nowhere, and neither does a path of 4096 bytes or
more.  The last name may be free; this is where a file or a directory can be made.

Making a directory with the ones on the way to it first tries the whole path, and
makes what is missing from the root downwards only if something on the way is
missing.  A point at the end of the path is therefore refused when it would lead to a
directory that is not there yet.
-/

/-- A file system and the directory that relative paths start in. -/
structure FileTree where
  root : FileNode := .empty
  workingDirectory : Place := []

/-- What a path leads to. -/
inductive Found
  | file (bytes : List UInt8)
  | directory
  | missing
  deriving DecidableEq, Repr

/-- Why a path was of no use. -/
inductive PathError
  | notFound
  | notDirectory
  | alreadyExists
  | isDirectory
  | invalid
  | tooLong
  deriving DecidableEq, Repr

/-- The message of a failure. -/
def PathError.message : PathError -> String
  | notFound => "No such file or directory"
  | notDirectory => "Not a directory"
  | alreadyExists => "File exists"
  | isDirectory => "Is a directory"
  | invalid => "file name contained an unexpected NUL byte"
  | tooLong => "File name too long"

/-- The names that were walked, the last one first, with what each leads to. -/
abbrev Trail := List (String × FileNode)

namespace Trail

/-- What a walk from a root has reached. -/
def last (root : FileNode) : Trail -> FileNode
  | [] => root
  | (_, node) :: _ => node

/-- The place that a walk has reached. -/
def place (trail : Trail) : Place :=
  (trail.map Prod.fst).reverse

/-- The trail to a place, as far as something stands there. -/
def along (root : FileNode) (trail : Trail) : Place -> Trail
  | [] => trail
  | name :: rest =>
      match (last root trail).child? name with
      | some node => along root ((name, node) :: trail) rest
      | none => trail

end Trail

/-- Where a path leads, and what stands there. -/
structure Reached where
  place : Place
  node : Option FileNode

namespace FileTree

/-- The greatest length of a name in bytes. -/
def nameLimit : Nat := 255

/-- The length in bytes that a path must stay below. -/
def pathLimit : Nat := 4096

/-- Walk along names. -/
def walk (root : FileNode) (trail : Trail) : List String -> Except PathError Reached
  | [] => .ok ⟨trail.place, some (trail.last root)⟩
  | name :: rest =>
      if !(trail.last root).isDirectory then .error .notDirectory
      else if name = "." then walk root trail rest
      else if name = ".." then walk root trail.tail rest
      else if nameLimit < name.utf8ByteSize then .error .tooLong
      else
        match (trail.last root).child? name with
        | some node => walk root ((name, node) :: trail) rest
        | none =>
            if rest.isEmpty then .ok ⟨trail.place ++ [name], none⟩ else .error .notFound

/-- The trail to where a path starts. -/
def start (tree : FileTree) (absolute : Bool) : Trail :=
  if absolute then [] else Trail.along tree.root [] tree.workingDirectory

/-- Walk along a path.  A path that ends with a slash leads to no plain file. -/
def resolve (tree : FileTree) (path : String) : Except PathError Reached :=
  if path = "" then .error .notFound
  else if path.toList.contains '\x00' then .error .invalid
  else if pathLimit ≤ path.utf8ByteSize then .error .tooLong
  else do
    let reached ← walk tree.root (tree.start (Path.isAbsolute path)) (Path.names path)
    if Path.endsWithSlash path ∧ (reached.node.bind FileNode.bytes?).isSome then
      .error .notDirectory
    else
      .ok reached

/-- Where a path leads when every directory on the way exists. -/
def placeOf (tree : FileTree) (path : String) : Place :=
  let origin := if Path.isAbsolute path then [] else tree.workingDirectory
  (Path.movingNames path).foldl
    (fun place name => if name = ".." then place.dropLast else place ++ [name])
    origin

/-- The bytes of the plain file at a place. -/
def bytesAt (tree : FileTree) (place : Place) : Option (List UInt8) :=
  (tree.root.at? place).bind FileNode.bytes?

/-- What a path leads to. -/
def find (tree : FileTree) (path : String) : Found :=
  match tree.resolve path with
  | .ok ⟨_, some (.file bytes _)⟩ => .file bytes
  | .ok ⟨_, some (.directory _)⟩ => .directory
  | _ => .missing

/-- Read what a path leads to.  Reading a directory gives nothing. -/
def read (tree : FileTree) (path : String) : Except PathError (List UInt8) := do
  match (← tree.resolve path).node with
  | some node => .ok (node.bytes?.getD [])
  | none => .error .notFound

/-- Put something at a place. -/
def put (tree : FileTree) (place : Place) (node : FileNode) : FileTree :=
  { tree with root := FileNode.put node place tree.root }

/-- Put a plain file at a place. -/
def putFile (tree : FileTree) (place : Place) (bytes : List UInt8) : FileTree :=
  tree.put place (.file bytes true)

/-- Put a directory at a place unless there is one. -/
def putDirectory (tree : FileTree) (place : Place) : FileTree :=
  match tree.root.at? place with
  | some (.directory _) => tree
  | _ => tree.put place .empty

/-- Write a plain file, whose directory must exist. -/
def write (tree : FileTree) (path : String) (bytes : List UInt8) :
    Except PathError FileTree := do
  let reached ← tree.resolve path
  if (reached.node.map FileNode.isDirectory).getD (Path.endsWithSlash path) then
    .error .isDirectory
  else
    .ok (tree.putFile reached.place bytes)

/-- Make one directory. -/
def makeDirectory (tree : FileTree) (reached : Reached) : Except PathError FileTree :=
  match reached.node with
  | some _ => .error .alreadyExists
  | none => .ok (tree.put reached.place .empty)

/-- Make a directory along names unless there is one. -/
def ensureAlong (absolute : Bool) (tree : FileTree) (names : List String) :
    Except PathError FileTree := do
  let reached ← walk tree.root (tree.start absolute) names
  match reached.node with
  | some (.directory _) => .ok tree
  | _ => tree.makeDirectory reached

/-- Make the directories on the way to a path that do not exist. -/
def makeParents (tree : FileTree) (path : String) : Except PathError FileTree :=
  let names := (Path.movingNames path).dropLast
  let fronts := (List.range names.length).map fun count => names.take (count + 1)
  fronts.foldlM (ensureAlong (Path.isAbsolute path)) tree

/-- Make the directory that a path leads to. -/
def makeAt (tree : FileTree) (path : String) : Except PathError FileTree := do
  tree.makeDirectory (← tree.resolve path)

/-- Take a directory that is there already in place of one that was not made. -/
def acceptExisting (tree : FileTree) (path : String) (cause : PathError) :
    Except PathError FileTree :=
  match tree.find path with
  | .directory => .ok tree
  | _ => .error cause

/-- Make a directory and the ones on the way to it, if they do not exist.  The
empty path needs none. -/
def makeDirectories (tree : FileTree) (path : String) : Except PathError FileTree :=
  if path = "" then
    .ok tree
  else
    match tree.makeAt path with
    | .ok made => .ok made
    | .error .notFound =>
        match tree.makeParents path with
        | .error cause => .error cause
        | .ok prepared =>
            match prepared.makeAt path with
            | .ok made => .ok made
            | .error cause => prepared.acceptExisting path cause
    | .error cause => tree.acceptExisting path cause

/-- Remove a directory with everything in it. -/
def remove (tree : FileTree) (path : String) : FileTree :=
  match tree.resolve path with
  | .ok reached => { tree with root := FileNode.remove reached.place tree.root }
  | .error _ => tree

end FileTree

/-- Why a data directory could not be made. -/
inductive DirectoryError
  | notCreated (path : String) (cause : PathError)
  deriving DecidableEq, Repr

/-- The message of a failure. -/
def DirectoryError.message : DirectoryError -> String
  | notCreated path cause =>
      "Failed to create data directory '" ++ path ++ "': " ++ cause.message

/-- Make sure that a data directory exists. -/
def FileTree.ensureDirectory (tree : FileTree) (path : String) :
    Except DirectoryError FileTree :=
  match tree.makeDirectories path with
  | .ok tree => .ok tree
  | .error cause => .error (.notCreated path cause)

end AsCensus

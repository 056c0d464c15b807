namespace AsCensus

/-!
# Places and what stands there

A file system is a tree of directories, with plain files as leaves.  A place is given
by the names that lead there from the root.

Putting something at a place makes the directories on the way.  The other names of a
directory keep what they stand for.
-/

/-- What stands at a place. -/
inductive FileNode
  | file (bytes : List UInt8) (writable : Bool)
  | directory (entries : List (String × FileNode))

/-- The names that lead to a place from the root. -/
abbrev Place := List String

namespace FileNode

/-- A directory without entries. -/
def empty : FileNode := directory []

/-- The entries of a directory.  A plain file has none. -/
def entries : FileNode -> List (String × FileNode)
  | file _ _ => []
  | directory entries => entries

/-- Whether this is a directory. -/
def isDirectory : FileNode -> Bool
  | file _ _ => false
  | directory _ => true

/-- The bytes of a plain file. -/
def bytes? : FileNode -> Option (List UInt8)
  | file bytes _ => some bytes
  | directory _ => none

/-- What a name stands for in a directory. -/
def child? (node : FileNode) (name : String) : Option FileNode :=
  node.entries.lookup name

/-- A directory without a name. -/
def withoutChild (node : FileNode) (name : String) : FileNode :=
  directory (node.entries.filter fun entry => entry.1 != name)

/-- A directory in which a name stands for something. -/
def withChild (node : FileNode) (name : String) (new : FileNode) : FileNode :=
  directory ((name, new) :: (node.withoutChild name).entries)

/-- What stands at a place below. -/
def at? : FileNode -> Place -> Option FileNode
  | node, [] => some node
  | node, name :: rest => (node.child? name).bind fun inner => inner.at? rest

/-- Put something at a place below. -/
def put (new : FileNode) : Place -> FileNode -> FileNode
  | [], _ => new
  | name :: rest, node => node.withChild name (put new rest ((node.child? name).getD empty))

/-- Remove what stands at a place below. -/
def remove : Place -> FileNode -> FileNode
  | [], node => node
  | [name], node => node.withoutChild name
  | name :: rest, node =>
      match node.child? name with
      | some inner => node.withChild name (remove rest inner)
      | none => node

end FileNode
end AsCensus

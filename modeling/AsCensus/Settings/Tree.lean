import AsCensus.Settings.Literal

namespace AsCensus
namespace Settings

/-!
# Tables of a settings file

A settings file names values by keys, which may have several parts.  All parts but
the last lead through tables, which come into being on the way.  A key that leads
to something already named is an error, and so is a key that would add to a table
that is complete.

A table remembers how it came into being, because this decides what may still be
added to it: a header may name once what only other headers led through, a key of
several parts may lead through what such keys or headers have led through, and
nothing is added to a table that was written between braces.
-/

/-- How a table came into being. -/
inductive TableOrigin
  /-- Other headers led through it. -/
  | passed
  /-- A header named it. -/
  | named
  /-- A key of several parts led through it. -/
  | dotted
  /-- It was written between braces. -/
  | closed
  deriving DecidableEq, Repr

/-- What a key names. -/
inductive Node
  | scalar (value : Scalar)
  /-- A value that is left open. -/
  | nothing
  | list (items : List Node)
  | table (origin : TableOrigin) (members : List (String × Node))
  /-- Tables that headers with double brackets have named, the last one first. -/
  | tables (last : List (String × Node)) (earlier : List Node)

/-- What the keys of a table name. -/
abbrev Members := List (String × Node)

namespace Members

/-- What a key names. -/
def find? (members : Members) (key : String) : Option Node :=
  members.lookup key

/-- Name something new. -/
def add (members : Members) (key : String) (node : Node) : Members :=
  members ++ [(key, node)]

/-- Name something else by a key that is there. -/
def replace (members : Members) (key : String) (node : Node) : Members :=
  members.map fun member => if member.1 = key then (key, node) else member

/-- Name a value by a key of one part or, with `path`, of several. -/
def assign (key : String) (node : Node) : List String -> Members -> Option Members
  | [], members =>
      if (find? members key).isNone then some (add members key node) else none
  | part :: path, members =>
      match find? members part with
      | none => do
          let inner ← assign key node path []
          some (add members part (.table .dotted inner))
      | some (.table .dotted inner) => do
          let inner ← assign key node path inner
          some (replace members part (.table .dotted inner))
      | some (.table .passed inner) =>
          if path.isEmpty then
            none
          else do
            let inner ← assign key node path inner
            some (replace members part (.table .passed inner))
      | some _ => none

/-- Do something to the table that a header leads to. -/
def inside (change : Members -> Option Members) : List String -> Members -> Option Members
  | [], members => change members
  | part :: path, members =>
      match find? members part with
      | none => do
          let inner ← inside change path []
          some (add members part (.table .passed inner))
      | some (.table .closed _) => none
      | some (.table origin inner) => do
          let inner ← inside change path inner
          some (replace members part (.table origin inner))
      | some (.tables last earlier) => do
          let last ← inside change path last
          some (replace members part (.tables last earlier))
      | some _ => none

/-- Name a table by a header. -/
def nameTable (key : String) (members : Members) : Option Members :=
  match find? members key with
  | none => some (add members key (.table .named []))
  | some (.table .passed inner) => some (replace members key (.table .named inner))
  | some _ => none

/-- Name one more table by a header with double brackets. -/
def nameNextTable (key : String) (members : Members) : Option Members :=
  match find? members key with
  | none => some (add members key (.tables [] []))
  | some (.tables last earlier) =>
      some (replace members key (.tables [] (.table .named last :: earlier)))
  | some _ => none

end Members
end Settings
end AsCensus

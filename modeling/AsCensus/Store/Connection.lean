import AsCensus.Files.Tree
import AsCensus.Store.Address
import AsCensus.Store.Snapshot

namespace AsCensus
namespace Store

open Text

/-!
# Connecting to a database

A database is kept in a file, or in memory.  The collector makes the file, so that
connecting never does: a path that leads nowhere names no database.  This is asked of
the whole text of a path, an address included, before the address is read.

What is kept in memory is private to one connection, or shared by the connections of
the program.  It starts without tables and is lost in the end.

A log is written beside a file unless its storage has none.  Changing an empty file to
this way of working is a write already; a database that was written with a log cannot
be opened without one, unless nobody changes it.
-/

/-- Why there is no connection. -/
inductive ConnectFailure
  | accessDenied (path : String)
  | unknownDatabase (path : String)
  | notOpened (path cause : String)
  deriving DecidableEq, Repr

/-- The message of a failure. -/
def ConnectFailure.message : ConnectFailure -> String
  | accessDenied path => "access denied to database '" ++ path ++ "'"
  | unknownDatabase path => "database '" ++ path ++ "' does not exist"
  | notOpened path cause => "failed to connect to '" ++ path ++ "': " ++ cause

/-- A connection. -/
structure Connection where
  /-- What the connection shows. -/
  db : Database
  /-- The file that the database is kept in, unless it is kept in memory. -/
  place : Option Place := none
  /-- Whether other connections of the program show the same. -/
  isShared : Bool := false
  /-- Whether nothing can be written over the connection. -/
  isReadOnly : Bool := false
  deriving DecidableEq

namespace Connection

/-- The path that selects a database in memory. -/
def memoryPath : String := ":memory:"

/-- A connection to a private database. -/
def ofPrivate : Connection :=
  { db := .bare }

/-- The length in bytes of the greatest file name beside which a log can be written. -/
def logNameLimit : Nat := 247

/-- The greatest length in bytes of the path from the root to a database. -/
def fullPathLimit : Nat := 504

/-- Whether the names to a place are short enough for a database. -/
def isShort (place : Place) : Bool :=
  (place.getLast?.getD "").utf8ByteSize ≤ logNameLimit &&
    (Path.ofNames true place).utf8ByteSize ≤ fullPathLimit

/-- Whether the file has to be written to work with a log. -/
def needsLog (opening : Opening) : Bool :=
  opening.storage == .logged && !opening.immutable

/-- Connect to the database that the bytes of a file hold. -/
def openBytes (shown : String) (opening : Opening) (place : Place) (bytes : List UInt8) :
    Except ConnectFailure Connection :=
  let isReadOnly := opening.access == .read || opening.immutable
  match Database.ofBytes? bytes with
  | none => .error (.unknownDatabase shown)
  | some db =>
      if Database.isEmptyFile bytes then
        if opening.access = .read ∧ needsLog opening then
          .error (.accessDenied shown)
        else
          .ok { db := db, place := some place, isShared := true, isReadOnly := isReadOnly }
      else if !opening.immutable ∧ opening.storage = .unlogged then
        .error (.notOpened shown "unable to open database file")
      else
        .ok { db := db, place := some place, isShared := true, isReadOnly := isReadOnly }

/-- Connect to the file at a place.  Failures are about the path `shown`. -/
def openPlace (tree : FileTree) (shown : String) (opening : Opening) (place : Place) :
    Except ConnectFailure Connection :=
  let missing : ConnectFailure := .notOpened shown "unable to open database file"
  if !isShort place then
    .error missing
  else
    match tree.root.at? place with
    | some (.file bytes _) => openBytes shown opening place bytes
    | some (.directory _) => .error missing
    | none =>
        let directory := (tree.root.at? place.dropLast).map FileNode.isDirectory
        if opening.access = .create ∧ directory = some true then
          openBytes shown opening place []
        else
          .error missing

/-- Connect to a database in memory.  In the storage of that name the ones that a
path from the root names are shared. -/
def openMemory (opening : Opening) (name : String) : Connection :=
  { db := .bare
    isShared :=
      if opening.storage = .inMemory then Path.isAbsolute name && name != "/"
      else opening.sharing && name != ""
    isReadOnly := opening.access == .read }

/-- Connect to the database that an address names. -/
def openAddress (tree : FileTree) (shown : String) (address : Address) :
    Except ConnectFailure Connection :=
  match address.fileName with
  | none => .error (.notOpened shown "unable to open database file")
  | some name =>
      let opening := address.opening
      let inMemory := opening.access = .memory ∨ opening.storage = .inMemory
      if inMemory ∨ name = memoryPath ∨ name = "" then
        .ok (openMemory opening name)
      else
        openPlace tree shown opening (tree.placeOf name)

/-- Open what a path, which leads somewhere, or an address names. -/
def openNamed (tree : FileTree) (path : String) : Except ConnectFailure Connection :=
  match after? Address.mark path.toList with
  | none => openPlace tree path {} (tree.placeOf path)
  | some rest =>
      match Address.read rest with
      | .ok address => openAddress tree path address
      | .error .notAllowed => .error (.accessDenied path)
      | .error _ => .error (.notOpened path "the address cannot be used")

/-- Connect to the database that a path names. -/
def connect (tree : FileTree) (path : String) : Except ConnectFailure Connection :=
  if path = memoryPath then
    .ok ofPrivate
  else
    match tree.resolve path with
    | .ok ⟨_, some (.file _ false)⟩ => .error (.accessDenied path)
    | .ok ⟨_, some _⟩ => openNamed tree path
    | _ => .error (.unknownDatabase path)

/-- Create tables that do not exist.  The name of the first table that cannot be
created is given in place of a result. -/
def ensureAll (connection : Connection) (tables : List TableId) :
    Except String Connection :=
  if connection.isReadOnly then
    match tables.find? fun table => !connection.db.has table with
    | some missing => .error missing.name
    | none => .ok connection
  else
    .ok { connection with db := connection.db.createAll tables }

/-- What the connection shows to a job that writes one table.  Where nothing can be
written, the job finds no such table. -/
def forWriting (connection : Connection) (table : TableId) : Database :=
  if connection.isReadOnly then connection.db.drop table else connection.db

/-- The files after what a connection shows was written back. -/
def save (connection : Connection) (tree : FileTree) : FileTree :=
  match connection.place with
  | some place =>
      if connection.isReadOnly then tree else tree.putFile place connection.db.toBytes
  | none => tree

end Connection
end Store
end AsCensus

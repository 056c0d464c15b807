import AsCensus.Files.Tree
import AsCensus.Path
import AsCensus.Rpsl.Registry
import AsCensus.Store.Route
import AsCensus.Text.Cut
import AsCensus.Text.Utf8

namespace AsCensus
namespace Job

open Rpsl
open Store
open Text

/-!
# Importing route objects

An import reads a dump line by line and stores its route objects.  A dump is a
local file, or is fetched from a routing registry into the download directory.
A registry whose dump cannot be fetched or read is passed over and reported.

A local dump whose path has the ending of compressed files is taken for compressed.
What it gives is up to the decompressor of the run (`Decompressor`), and a run may be
without one.
-/

/-- The bytes that a dump gives, and whether reading it broke off after them. -/
structure Dump where
  bytes : List UInt8
  brokenOff : Bool := false
  deriving DecidableEq, Repr

/-- What the bytes of a compressed file give. -/
abbrev Decompressor := List UInt8 -> Dump

/-- Reading a compressed file breaks off at once where there is no decompressor. -/
def noDecompressor : Decompressor := fun _ => ⟨[], true⟩

/-- The lines of a dump.  Where reading broke off, the line that was not complete
is lost. -/
def Dump.lines (dump : Dump) : List String :=
  let whole := byteLines dump.bytes
  let complete :=
    if dump.brokenOff then whole.filter fun line => line.getLast? == some lineFeed else whole
  complete.map fun line => String.ofList (decode line)

/-- Import a dump, with a batch size of at least one. -/
def importDump (db : Database) (batchSize : Nat) (dump : Dump) : WriteStats × Database :=
  let (writer, after) := (RouteWriter.new (max batchSize 1)).pushAll db (routeEntries dump.lines)
  writer.finish after

/-- Which dumps a run imports. -/
structure ImportOptions where
  /-- The names of registries; all of them if there is none. -/
  sources : List String := []
  /-- A local dump, in place of the ones of registries. -/
  file : Option String := none
  /-- Keep the dumps that were fetched. -/
  keepFiles : Bool := false
  deriving DecidableEq, Repr

/-- Why an import failed. -/
inductive ImportError
  | notOpened (path : String) (cause : PathError)
  | notLocal (path : String)
  | notFetched (url cause : String)
  | notStored (path : String) (cause : PathError)
  | selection (error : Registry.SelectionError)
  | directory (error : DirectoryError)
  deriving DecidableEq, Repr

/-- The message of a failure. -/
def ImportError.message : ImportError -> String
  | notOpened path cause => "Failed to open dump '" ++ path ++ "': " ++ cause.message
  | notLocal path => "Failed to open dump '" ++ path ++ "': not a local file"
  | notFetched url cause => "Failed to download " ++ url ++ ": " ++ cause
  | notStored path cause => "Failed to create " ++ path ++ ": " ++ cause.message
  | selection error => error.message
  | directory error => error.message

/-- What became of one dump. -/
structure ImportReport where
  /-- The name of the registry, or the path of a local dump. -/
  source : String
  result : Except ImportError WriteStats

/-- What a run did. -/
structure ImportSummary where
  imports : List ImportReport := []

/-- What an outcome reports of the rows that were written. -/
def ImportReport.stats? (outcome : ImportReport) : Option WriteStats :=
  outcome.result.toOption

/-- How many rows were written. -/
def ImportSummary.written (summary : ImportSummary) : Nat :=
  ((summary.imports.filterMap ImportReport.stats?).map WriteStats.written).foldl (· + ·) 0

/-- How many dumps failed. -/
def ImportSummary.failed (summary : ImportSummary) : Nat :=
  summary.imports.countP fun outcome => outcome.stats?.isNone

/-- How a run is carried out.  `fetch` gives the decompressed dump of a registry, or
tells why there is none. -/
structure ImportSettings where
  batchSize : Nat
  downloadDirectory : String
  fetch : Registry -> Except String (List UInt8)

/-- What a run works on. -/
structure ImportWorld where
  db : Database
  tree : FileTree

/-- The endings of the paths of compressed files. -/
def compressedEndings : List (List Char) :=
  ["gz".toList, "gzip".toList, "tgz".toList]

/-- Whether a path is the one of a compressed file.  Its ending is what follows the
last point, and the whole of a path without a point. -/
def isCompressed (path : String) : Bool :=
  compressedEndings.contains (path.toList.reverse.takeWhile fun c => c != '.').reverse

/-- The dump that a file holds, decompressed if the file is a compressed one.  A path that
names a protocol leads to no file. -/
def openDump (decompress : Decompressor) (tree : FileTree) (path : String) :
    Except ImportError Dump :=
  if (cut "://".toList path.toList).isSome then
    .error (.notLocal path)
  else
    match tree.read path with
    | .error cause => .error (.notOpened path cause)
    | .ok bytes => .ok (if isCompressed path then decompress bytes else ⟨bytes, false⟩)

/-- Import a dump into the database. -/
def importInto (settings : ImportSettings) (world : ImportWorld) (dump : Dump) :
    WriteStats × ImportWorld :=
  let (stats, db) := importDump world.db settings.batchSize dump
  (stats, { world with db := db })

/-- Import the dump that a file holds. -/
def importStored (settings : ImportSettings) (world : ImportWorld) (decompress : Decompressor)
    (path : String) : Except ImportError (WriteStats × ImportWorld) := do
  .ok (importInto settings world (← openDump decompress world.tree path))

/-- Where the dump of a registry is stored. -/
def storedPath (settings : ImportSettings) (registry : Registry) : String :=
  Path.withoutFinalSlashes settings.downloadDirectory ++ "/" ++ registry.storedName

/-- Fetch the dump of a registry, and keep it in the download directory. -/
def fetchDump (settings : ImportSettings) (world : ImportWorld) (registry : Registry) :
    Except ImportError (Dump × ImportWorld) :=
  match settings.fetch registry with
  | .error cause => .error (.notFetched registry.url cause)
  | .ok bytes =>
      match world.tree.write (storedPath settings registry) bytes with
      | .error cause => .error (.notStored (storedPath settings registry) cause)
      | .ok tree => .ok (⟨bytes, false⟩, { world with tree := tree })

/-- Fetch and import the dump of a registry. -/
def importRegistry (settings : ImportSettings) (world : ImportWorld) (registry : Registry) :
    ImportReport × ImportWorld :=
  match fetchDump settings world registry with
  | .error error => (⟨registry.name, .error error⟩, world)
  | .ok (dump, fetched) =>
      let (stats, after) := importInto settings fetched dump
      (⟨registry.name, .ok stats⟩, after)

/-- Fetch and import the dumps of registries in turn. -/
def importRegistries (settings : ImportSettings) (world : ImportWorld) :
    List Registry -> List ImportReport × ImportWorld
  | [] => ([], world)
  | registry :: rest =>
      let (outcome, after) := importRegistry settings world registry
      let (outcomes, final) := importRegistries settings after rest
      (outcome :: outcomes, final)

/-- Import the dumps that the options tell. -/
def runImport (settings : ImportSettings) (options : ImportOptions) (world : ImportWorld)
    (decompress : Decompressor := noDecompressor) :
    Except ImportError (ImportSummary × ImportWorld) :=
  match options.file with
  | some path => do
      let (stats, after) ← importStored settings world decompress path
      .ok (⟨[⟨path, .ok stats⟩]⟩, after)
  | none => do
      let registries ← (Registry.select options.sources).mapError .selection
      let tree ← (world.tree.ensureDirectory settings.downloadDirectory).mapError .directory
      let (outcomes, after) := importRegistries settings { world with tree := tree } registries
      let final :=
        if options.keepFiles then after.tree else after.tree.remove settings.downloadDirectory
      .ok (⟨outcomes⟩, { after with tree := final })

end Job
end AsCensus

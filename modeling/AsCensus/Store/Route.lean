import AsCensus.Batch
import AsCensus.Rpsl.RouteObject
import AsCensus.Store.AsnStats

namespace AsCensus
namespace Store

open Std
open Rpsl

/-!
# Stored route objects

A route object is stored under its network and origin; a later one with the same
key replaces it.  Entries without the whole key are left out.

Rows are written by statements of many rows.  A statement binds the values of its
rows, and one that binds too many fails.  So there is a number of rows that a
statement may write (`rowsPerStatement`); up to this number it fails only if the
table is missing (`writeRoutes_of_length_le`, `writeRoutes_eq_none_iff`).

A writer queues entries and writes them as one batch as soon as there are more
of them than its batch size.  A batch that cannot be written is lost, and the
writer goes on.
-/

/-- How many values one statement may bind. -/
def boundValues : Nat := 32766

/-- How many values a row binds: two for its network, its origin and its description. -/
def valuesPerRow : Nat := 4

/-- How many rows one statement may write. -/
def rowsPerStatement : Nat := boundValues / valuesPerRow

/-- The key of the route object of a network and an origin. -/
def RouteKey.of (address : String) (length : UInt8) (origin : Asn) : RouteKey :=
  ⟨⟨address, .integer length.toNat⟩, .integer origin.toInt⟩

/-- An entry as a row: its key and its description. -/
def routeRow (entry : RouteEntry) : Option (RouteKey × Option String) := do
  let address ← entry.address
  let length ← entry.length
  let origin ← entry.origin
  some (.of address length origin, entry.description)

/-- The length of a network that a stored number is read as. -/
def readLength (stored : Datum) : Option UInt8 := do
  let value ← stored.integer?
  if 0 ≤ value ∧ value < 256 then some (UInt8.ofNat value.toNat) else none

/-- The entry of a stored row, if its numbers are in range. -/
def storedEntry (key : RouteKey) (description : Option String) : Option RouteEntry := do
  let length ← readLength key.network.length
  let origin ← readAsn key.origin
  some ⟨some key.network.address, some length, some origin, description⟩

namespace Database

/-- Write rows by a single statement.  It fails if it binds more values than a statement
may, or if there is no table. -/
def writeRoutes (db : Database) (rows : List (RouteKey × Option String)) : Option Database :=
  if boundValues < rows.length * valuesPerRow then
    none
  else
    db.routes.map fun table =>
      { db with routes := some (rows.foldl (fun table row => table.insert row.1 row.2) table) }

/-- Store entries.  The result tells the number of rows written, unless a
statement failed. -/
def replaceRoutes (db : Database) (entries : List RouteEntry) : Database × Option Nat :=
  writeBatches writeRoutes db (batches rowsPerStatement (entries.filterMap routeRow))

/-- The stored route object of a network and an origin. -/
def routeOf (db : Database) (address : String) (length : UInt8) (origin : Asn) :
    Option RouteEntry := do
  let table ← db.routes
  let key := RouteKey.of address length origin
  let description ← table[key]?
  storedEntry key description

theorem lt_rowsPerStatement_iff {count : Nat} :
    rowsPerStatement < count <-> boundValues < count * valuesPerRow :=
  Nat.div_lt_iff_lt_mul (by decide)

variable {db : Database} {rows : List (RouteKey × Option String)}

/-- A statement of few enough rows writes them one after the other. -/
theorem writeRoutes_of_length_le (few : rows.length ≤ rowsPerStatement) :
    db.writeRoutes rows = db.routes.map fun table =>
      { db with
        routes := some (rows.foldl (fun table row => table.insert row.1 row.2) table) } := by
  rw [writeRoutes, if_neg]
  rw [← lt_rowsPerStatement_iff]
  exact Nat.not_lt_of_le few

theorem writeRoutes_eq_none_iff :
    db.writeRoutes rows = none <-> db.routes = none ∨ rowsPerStatement < rows.length := by
  rw [lt_rowsPerStatement_iff, writeRoutes]
  split
  · next tooMany => simp [tooMany]
  · next fits => simp [fits]

end Database

/-- What a writer did with its entries. -/
structure WriteStats where
  queued : Nat := 0
  written : Nat := 0
  failedBatches : Nat := 0
  deriving DecidableEq, Repr

/-- A queue of entries that are written in batches. -/
structure RouteWriter where
  batchSize : Nat
  queue : Array RouteEntry := #[]
  stats : WriteStats := {}
  deriving DecidableEq, Repr

namespace RouteWriter

/-- A writer with an empty queue.  Room for one entry more than the batch size is set
aside at once; that there is so much room is taken for granted. -/
def new (batchSize : Nat) : RouteWriter :=
  { batchSize := batchSize }

/-- How many entries wait to be written. -/
def pending (writer : RouteWriter) : Nat :=
  writer.queue.size

/-- Write the entries that wait. -/
def flush (writer : RouteWriter) (db : Database) : RouteWriter × Database :=
  if writer.queue.isEmpty then
    (writer, db)
  else
    match db.replaceRoutes writer.queue.toList with
    | (after, some rows) =>
        ({ writer with queue := #[]
                       stats := { writer.stats with written := writer.stats.written + rows } },
          after)
    | (after, none) =>
        ({ writer with queue := #[]
                       stats := { writer.stats with
                         failedBatches := writer.stats.failedBatches + 1 } },
          after)

/-- Queue an entry that has the whole key, and write the queue once it has more
entries than the batch size. -/
def push (writer : RouteWriter) (db : Database) (entry : RouteEntry) :
    RouteWriter × Database :=
  if entry.isComplete then
    let longer : RouteWriter :=
      { writer with queue := writer.queue.push entry
                    stats := { writer.stats with queued := writer.stats.queued + 1 } }
    if longer.batchSize < longer.pending then longer.flush db else (longer, db)
  else
    (writer, db)

/-- Queue entries one after the other. -/
def pushAll (writer : RouteWriter) (db : Database) (entries : List RouteEntry) :
    RouteWriter × Database :=
  entries.foldl (fun (writer, db) entry => writer.push db entry) (writer, db)

/-- Write what is left.  The result tells what the writer did. -/
def finish (writer : RouteWriter) (db : Database) : WriteStats × Database :=
  let (last, after) := writer.flush db
  (last.stats, after)

end RouteWriter
end Store
end AsCensus

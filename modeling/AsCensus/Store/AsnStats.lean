import AsCensus.Batch
import AsCensus.Store.Announcement

namespace AsCensus
namespace Store

open Std

/-!
# Statistics of systems

A row holds four counts of a system at one time, one for each role and address
family, and a flag for each role.  Writing a count sets its column and the flag
of its role and keeps the other columns; a row that does not exist yet starts
from zeros.

A stored count is an integer of 64 bits with a sign.  A greater count is stored as a
real, so that no reader takes it for a count.
-/

/-- The roles of a system for a network. -/
inductive Role
  | origin
  | transit
  deriving DecidableEq, Repr

namespace Role

/-- The roles in the order in which they are counted. -/
def all : List Role := [origin, transit]

/-- The name of a role as it is written in data. -/
def name : Role -> String
  | origin => "Origin"
  | transit => "Transit"

/-- The role that is written with a given name in data. -/
def ofName? (name : String) : Option Role :=
  all.find? fun role => role.name == name

/-- The part of a column name that tells the role. -/
def columnPart : Role -> String
  | origin => "origin"
  | transit => "transit"

/-- The column of the counts of a role and a family. -/
def column (role : Role) (family : AddressFamily) : String :=
  role.columnPart ++ "_" ++ family.columnPart ++ "_prefixes"

/-- The column of the flag of a role. -/
def markColumn : Role -> String
  | origin => "isOrigin"
  | transit => "isTransit"

end Role

/-- The count that a stored number is read as. -/
def readCount (stored : Datum) : Option Nat := do
  let value ← stored.integer?
  if 0 ≤ value then some value.toNat else none

namespace StatsRow

/-- The count of a role and a family. -/
def count (row : StatsRow) : Role -> AddressFamily -> Datum
  | .transit, .ipv4 => row.transitV4
  | .transit, .ipv6 => row.transitV6
  | .origin, .ipv4 => row.originV4
  | .origin, .ipv6 => row.originV6

/-- The flag of a role. -/
def flag (row : StatsRow) : Role -> Datum
  | .transit => row.isTransit
  | .origin => row.isOrigin

/-- Set the count of a role and a family, and the flag of the role. -/
def record (row : StatsRow) (role : Role) (family : AddressFamily) (count : Datum) :
    StatsRow :=
  match role, family with
  | .transit, .ipv4 => { row with transitV4 := count, isTransit := .integer 1 }
  | .transit, .ipv6 => { row with transitV6 := count, isTransit := .integer 1 }
  | .origin, .ipv4 => { row with originV4 := count, isOrigin := .integer 1 }
  | .origin, .ipv6 => { row with originV6 := count, isOrigin := .integer 1 }

theorem count_record (row : StatsRow) (role other : Role) (family : AddressFamily)
    (otherFamily : AddressFamily) (count : Datum) :
    (row.record role family count).count other otherFamily =
      if role = other ∧ family = otherFamily then count else row.count other otherFamily := by
  cases role <;> cases family <;> cases other <;> cases otherFamily <;> rfl

theorem flag_record (row : StatsRow) (role other : Role) (family : AddressFamily)
    (count : Datum) :
    (row.record role family count).flag other =
      if role = other then .integer 1 else row.flag other := by
  cases role <;> cases family <;> cases other <;> rfl

end StatsRow

/-- The key of the statistics of a system at a time. -/
def StatsKey.at (asn : Asn) (timestamp : Int) : StatsKey :=
  ⟨.integer asn.toInt, .integer timestamp⟩

/-- Write the count of a system into a table. -/
def StatsTable.write (role : Role) (family : AddressFamily) (timestamp : Int)
    (table : StatsTable) (entry : Asn × Nat) : StatsTable :=
  ExtTreeMap.alter table (StatsKey.at entry.1 timestamp) fun row =>
    some ((row.getD {}).record role family (.ofInt entry.2))

/-- The statistics of a system as they are read back. -/
structure Stats where
  asn : Asn
  isTransit : Bool
  isOrigin : Bool
  transitV4 : Nat
  transitV6 : Nat
  originV4 : Nat
  originV6 : Nat
  timestamp : Int
  deriving DecidableEq, Repr

/-- Read a stored row. -/
def Stats.ofRow (key : StatsKey) (row : StatsRow) : Option Stats := do
  let asn ← readAsn key.asn
  let isTransit ← row.isTransit.integer?
  let isOrigin ← row.isOrigin.integer?
  let transitV4 ← readCount row.transitV4
  let transitV6 ← readCount row.transitV6
  let originV4 ← readCount row.originV4
  let originV6 ← readCount row.originV6
  let timestamp ← key.timestamp.integer?
  some
    { asn := asn
      isTransit := isTransit != 0
      isOrigin := isOrigin != 0
      transitV4 := transitV4
      transitV6 := transitV6
      originV4 := originV4
      originV6 := originV6
      timestamp := timestamp }

/-- A database after statements that each write one batch, and the number of rows
written.  There is no number if a statement failed; the others are executed all
the same. -/
def writeBatches (write : Database -> List X -> Option Database) (db : Database)
    (parts : List (List X)) : Database × Option Nat :=
  parts.foldl
    (fun (db, written) part =>
      match write db part with
      | some after => (after, written.map (· + part.length))
      | none => (db, none))
    (db, some 0)

namespace Database

/-- Write counts of one role and family at one time by a single statement. -/
def writeCounts (role : Role) (family : AddressFamily) (timestamp : Int) (db : Database)
    (counts : List (Asn × Nat)) : Option Database :=
  db.stats.map fun table =>
    { db with stats := some (counts.foldl (StatsTable.write role family timestamp) table) }

/-- Write counts of one role and family at one time, in batches. -/
def storeCounts (db : Database) (role : Role) (family : AddressFamily)
    (counts : List (Asn × Nat)) (timestamp : Int) (batchSize : Nat) : Database × Option Nat :=
  writeBatches (writeCounts role family timestamp) db (batches (max batchSize 1) counts)

/-- The rows of a system, the latest one last. -/
def statsOf (table : StatsTable) (asn : Asn) : List (StatsKey × StatsRow) :=
  table.toList.filter fun entry => entry.1.asn == .integer asn.toInt

/-- The most recent statistics of a system. -/
def latest (db : Database) (asn : Asn) : Option Stats := do
  let table ← db.stats
  let (key, row) ← (statsOf table asn).getLast?
  Stats.ofRow key row

end Database
end Store
end AsCensus

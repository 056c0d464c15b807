import AsCensus.Batch
import AsCensus.Store.Announcement

namespace AsCensus
namespace Job

open Store

/-!
# Counting transit with workers

The systems that the analysis sees in a transit position are counted by a pool
of workers.  Each worker gets one batch of the systems and a connection of its
own.  What that connection shows depends on the target of the run: a stored
database shows the same tables, but a database in memory is private, and a new
connection to it shows no table at all.

The result is the one of asking for the systems one by one: which worker asks
leaves no trace.
-/

/-- What the connections of workers lead to. -/
inductive Target
  /-- The database that the run works on. -/
  | shared
  /-- A database of its own, or none at all if a worker cannot connect. -/
  | separate (view : Option Database)
  deriving DecidableEq

/-- What a new connection shows. -/
def Target.view (target : Target) (db : Database) : Option Database :=
  match target with
  | shared => some db
  | separate view => view

/-- The target of a run on a database in memory. -/
def Target.privateMemory : Target :=
  .separate (some Database.bare)

/-- How many of `total` systems a worker gets, so that no more than `workers` are
needed. -/
def chunkSize (total workers : Nat) : Nat :=
  max (ceilDiv total (max workers 1)) 1

/-- The counts that workers found, and the systems whose count failed. -/
structure PoolResult where
  tally : Tally
  failed : List Asn
  deriving DecidableEq

/-- Count the systems of one worker. -/
def countChunk (connection : Option Database) (family : AddressFamily) (asns : List Asn) :
    List (Asn × Option Nat) :=
  asns.map fun asn => (asn, connection.bind fun db => db.transitCountOf asn family)

/-- Gather counts: those that succeeded into a tally, the others as failures. -/
def gather (results : List (Asn × Option Nat)) : PoolResult where
  tally := Tally.ofList (results.filterMap fun (asn, count) => count.map fun n => (asn, n))
  failed := (results.filter fun result => result.2.isNone).map Prod.fst

/-- Count the transit networks of systems with a pool of workers.  That the host can start
the workers is taken for granted: a pool that cannot be started counts nothing. -/
def countTransit (connection : Option Database) (family : AddressFamily) (asns : List Asn)
    (workers : Nat) : PoolResult :=
  gather ((batches (chunkSize asns.length workers) asns).flatMap (countChunk connection family))

end Job
end AsCensus

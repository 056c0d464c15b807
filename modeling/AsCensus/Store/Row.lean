import AsCensus.Store.Datum
import AsCensus.Whois.Record

namespace AsCensus
namespace Store

open Std

/-!
# Rows and keys

The tables of the database are maps from keys to rows.  A column of numbers refuses
nothing; reading what it holds as a number of some kind is a step of its own, which may
fail.  The exception is the number of a system in the WHOIS details, which is the number
of the row and therefore always an integer.

The collector fills three tables: its routing information base, the attributes
of the paths in it, and an analysis of these paths.  The other three tables hold
results: statistics for each system and interval, WHOIS records, and route
objects.

Each kind of key has a linear order, in which a table lists its rows.  Texts are
compared character by character.
-/

/-- A network as it is stored. -/
structure StoredNetwork where
  address : String
  length : Datum
  deriving DecidableEq, Repr

/-- The identity of the attributes of a path. -/
structure PathId where
  attributes : String
  peer : String
  deriving DecidableEq, Repr

/-- An announcement in the routing information base. -/
structure RibRow where
  path : PathId
  network : StoredNetwork
  origin : Datum := .integer 0
  ipv4 : Datum := .integer 1
  withdrawn : Datum := .integer 0
  deriving DecidableEq, Repr

/-- The attributes of a path. -/
structure PathRow where
  asPath : String
  origin : Datum
  deriving DecidableEq, Repr

/-- The identity of one system on one path. -/
structure AnalysisKey where
  asn : Datum
  path : PathId
  deriving DecidableEq, Repr

/-- The neighbours of a system on a path, zero where there is none. -/
structure AnalysisRow where
  left : Datum := .integer 0
  right : Datum := .integer 0
  deriving DecidableEq, Repr

/-- The identity of the statistics of one system at one time. -/
structure StatsKey where
  asn : Datum
  timestamp : Datum
  deriving DecidableEq, Repr

/-- The statistics of a system at a time. -/
structure StatsRow where
  isTransit : Datum := .integer 0
  isOrigin : Datum := .integer 0
  transitV4 : Datum := .integer 0
  transitV6 : Datum := .integer 0
  originV4 : Datum := .integer 0
  originV6 : Datum := .integer 0
  deriving DecidableEq, Repr

/-- The WHOIS details of a system. -/
structure WhoisRow where
  fields : Whois.FieldTexts := ∅
  raw : Option String := none
  deriving DecidableEq

/-- The identity of a route object. -/
structure RouteKey where
  network : StoredNetwork
  origin : Datum
  deriving DecidableEq, Repr

/-! ## Orders of keys -/

instance : Ord StoredNetwork where
  compare := compareLex (compareOn StoredNetwork.address) (compareOn StoredNetwork.length)

instance : TransOrd StoredNetwork :=
  inferInstanceAs
    (TransCmp (compareLex (compareOn StoredNetwork.address) (compareOn StoredNetwork.length)))

instance : LawfulEqOrd StoredNetwork where
  eq_of_compare {a b} same := by
    obtain ⟨addresses, lengths⟩ := Ordering.then_eq_eq.mp same
    cases a
    cases b
    cases LawfulEqOrd.eq_of_compare addresses
    cases LawfulEqOrd.eq_of_compare lengths
    rfl

instance : Ord PathId where
  compare := compareLex (compareOn PathId.attributes) (compareOn PathId.peer)

instance : TransOrd PathId :=
  inferInstanceAs (TransCmp (compareLex (compareOn PathId.attributes) (compareOn PathId.peer)))

instance : LawfulEqOrd PathId where
  eq_of_compare {a b} same := by
    obtain ⟨attributes, peers⟩ := Ordering.then_eq_eq.mp same
    cases a
    cases b
    cases LawfulEqOrd.eq_of_compare attributes
    cases LawfulEqOrd.eq_of_compare peers
    rfl

instance : Ord AnalysisKey where
  compare := compareLex (compareOn AnalysisKey.asn) (compareOn AnalysisKey.path)

instance : TransOrd AnalysisKey :=
  inferInstanceAs (TransCmp (compareLex (compareOn AnalysisKey.asn) (compareOn AnalysisKey.path)))

instance : LawfulEqOrd AnalysisKey where
  eq_of_compare {a b} same := by
    obtain ⟨systems, paths⟩ := Ordering.then_eq_eq.mp same
    cases a
    cases b
    cases LawfulEqOrd.eq_of_compare systems
    cases LawfulEqOrd.eq_of_compare paths
    rfl

instance : Ord StatsKey where
  compare := compareLex (compareOn StatsKey.asn) (compareOn StatsKey.timestamp)

instance : TransOrd StatsKey :=
  inferInstanceAs (TransCmp (compareLex (compareOn StatsKey.asn) (compareOn StatsKey.timestamp)))

instance : LawfulEqOrd StatsKey where
  eq_of_compare {a b} same := by
    obtain ⟨systems, times⟩ := Ordering.then_eq_eq.mp same
    cases a
    cases b
    cases LawfulEqOrd.eq_of_compare systems
    cases LawfulEqOrd.eq_of_compare times
    rfl

instance : Ord RouteKey where
  compare := compareLex (compareOn RouteKey.network) (compareOn RouteKey.origin)

instance : TransOrd RouteKey :=
  inferInstanceAs (TransCmp (compareLex (compareOn RouteKey.network) (compareOn RouteKey.origin)))

instance : LawfulEqOrd RouteKey where
  eq_of_compare {a b} same := by
    obtain ⟨networks, origins⟩ := Ordering.then_eq_eq.mp same
    cases a
    cases b
    cases LawfulEqOrd.eq_of_compare networks
    cases LawfulEqOrd.eq_of_compare origins
    rfl

end Store
end AsCensus
